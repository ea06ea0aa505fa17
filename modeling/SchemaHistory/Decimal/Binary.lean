/-!
Doubles as exact numbers. A finite double is `mantissa * 2 ^ exponent` with a sign, and the reals
that round to it form an interval around it; both are given here in whole numbers.
-/

namespace SchemaHistory.Decimal

set_option autoImplicit false

def powerOfTwo (exponent : Nat) : Nat := Nat.pow 2 exponent

def powerOfTen (exponent : Nat) : Nat := Nat.pow 10 exponent

/-- The mantissa of the least power of two that has all its digits. -/
def leastNormal : Nat := 0x10000000000000

def leastExponent : Int := -1074

inductive Binary where
  | nan
  | infinity (negative : Bool)
  | finite (negative : Bool) (mantissa : Nat) (exponent : Int)
  deriving DecidableEq

def Binary.ofBits (bits : UInt64) : Binary :=
  let negative := bits >>> 63 == 1
  let biased := (bits >>> 52 &&& 0x7FF).toNat
  let fraction := (bits &&& 0xFFFFFFFFFFFFF).toNat
  if biased = 2047 then
    if fraction = 0 then .infinity negative else .nan
  else if biased = 0 then .finite negative fraction leastExponent
  else .finite negative (leastNormal + fraction) (leastExponent + biased - 1)

/-- A positive rational with the ends of its rounding interval over one denominator. The ends
belong to the interval when `closed` holds. -/
structure Neighborhood where
  lower : Nat
  value : Nat
  upper : Nat
  denominator : Nat
  closed : Bool
  deriving DecidableEq

/-- The reals that round to `mantissa * 2 ^ exponent`, in quarters of the last place. Below a power
of two the next double is half as far away, except at the smallest exponent. An end is a tie, which
goes to the even mantissa. -/
def Neighborhood.ofBinary (mantissa : Nat) (exponent : Int) : Neighborhood :=
  let below := if mantissa = leastNormal ∧ exponent ≠ leastExponent then 1 else 2
  let scale := powerOfTwo (exponent - 2).toNat
  { lower := (4 * mantissa - below) * scale
    value := 4 * mantissa * scale
    upper := (4 * mantissa + 2) * scale
    denominator := powerOfTwo (2 - exponent).toNat
    closed := mantissa % 2 = 0 }

end SchemaHistory.Decimal
