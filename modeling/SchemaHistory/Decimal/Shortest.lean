import SchemaHistory.Decimal.Binary

/-!
The shortest decimal that reads back as a given double, and of the shortest the nearest. For one,
two, ... digits the two neighbors of the value on that decimal grid are tried; the first grid with
a neighbor inside the rounding interval decides. If any point of a grid lies in the interval, then
so does one of the two neighbors, so no shorter decimal is missed.
-/

namespace SchemaHistory.Decimal

set_option autoImplicit false

/-- The number `0.d₁d₂d₃… * 10 ^ point`, the first digit not zero. -/
structure Digits where
  digits : List Char
  point : Int
  deriving DecidableEq

def pointOf (value denominator : Nat) : Int :=
  if denominator ≤ value then (Nat.toDigits 10 (value / denominator)).length
  else
    let places := (Nat.toDigits 10 (denominator / value)).length
    if denominator ≤ value * powerOfTen (places - 1) then 2 - places else 1 - places

namespace Neighborhood

def contains (region : Neighborhood) (multiple : Nat) (grid : Int) : Bool :=
  let point := multiple * powerOfTen grid.toNat * region.denominator
  let scale := powerOfTen (-grid).toNat
  let lower := region.lower * scale
  let upper := region.upper * scale
  if region.closed then lower ≤ point ∧ point ≤ upper else lower < point ∧ point < upper

/-- The neighbor of the value on the grid `10 ^ grid` that lies in the interval, the nearer one
when both do, and the greater one when both are equally near. -/
def onGrid? (region : Neighborhood) (grid : Int) : Option Nat :=
  let numerator := region.value * powerOfTen (-grid).toNat
  let unit := powerOfTen grid.toNat * region.denominator
  let down := numerator / unit
  let up := down + 1
  match region.contains down grid, region.contains up grid with
  | true, true => some (if 2 * (numerator % unit) < unit then down else up)
  | true, false => some down
  | false, true => some up
  | false, false => none

def search (region : Neighborhood) (point : Int) : Nat → Nat → Option (Nat × Int)
  | 0, _ => none
  | budget + 1, count =>
      let grid := point - count
      match region.onGrid? grid with
      | some multiple => some (multiple, grid)
      | none => region.search point budget (count + 1)

end Neighborhood

def Digits.ofMultiple (multiple : Nat) (grid : Int) : Digits :=
  let all := Nat.toDigits 10 multiple
  { digits := (all.reverse.dropWhile (· = '0')).reverse, point := grid + all.length }

/-- Seventeen digits always suffice to tell a double from all others. -/
def shortest (mantissa : Nat) (exponent : Int) : Digits :=
  let region := Neighborhood.ofBinary mantissa exponent
  let point := pointOf region.value region.denominator
  match region.search point 17 1 with
  | some (multiple, grid) => .ofMultiple multiple grid
  | none => ⟨[], 0⟩

end SchemaHistory.Decimal
