import SchemaHistory.Decimal.Shortest

/-!
The text of a double: its shortest digits, laid out as a `Layout` says.
-/

namespace SchemaHistory.Decimal

set_option autoImplicit false

/-- Choices of a decimal notation. A number `d.ddd * 10 ^ e` is positional when
`leastPositional ≤ e < leastScientific`. -/
structure Layout where
  leastPositional : Int
  leastScientific : Int
  wholeEnd : String
  exponentMark : String
  infinity : String
  nan : String

namespace Layout

def positional (layout : Layout) (number : Digits) : String :=
  let count : Int := number.digits.length
  if number.point ≤ 0 then
    "0." ++ .ofList (List.replicate (-number.point).toNat '0' ++ number.digits)
  else if count ≤ number.point then
    .ofList (number.digits ++ List.replicate (number.point - count).toNat '0') ++ layout.wholeEnd
  else
    .ofList (number.digits.take number.point.toNat) ++ "." ++
      .ofList (number.digits.drop number.point.toNat)

def scientific (layout : Layout) (number : Digits) : String :=
  let fraction := number.digits.drop 1
  .ofList (number.digits.take 1) ++ (if fraction = [] then "" else "." ++ .ofList fraction) ++
    layout.exponentMark ++ toString (number.point - 1)

def magnitude (layout : Layout) (number : Digits) : String :=
  let exponent := number.point - 1
  if layout.leastPositional ≤ exponent ∧ exponent < layout.leastScientific then
    layout.positional number
  else layout.scientific number

def binary (layout : Layout) : Binary → String
  | .nan => layout.nan
  | .infinity negative => (if negative then "-" else "") ++ layout.infinity
  | .finite negative mantissa exponent =>
      (if negative then "-" else "") ++
        if mantissa = 0 then "0" ++ layout.wholeEnd
        else layout.magnitude (shortest mantissa exponent)

def format (layout : Layout) (value : Float) : String := layout.binary (.ofBits value.toBits)

end Layout

end SchemaHistory.Decimal
