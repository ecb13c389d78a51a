/-! The shortest decimal of a binary fraction. A number `m · 2 ^ q` stands for every real that
rounds to it; of the points `d · 10 ^ s` among these, the shortest lie on the coarsest grid that
has one, and of two such points the nearer is taken. -/

namespace PatternLint.Decimal

/-- A number with its neighbours' midpoints, over a common denominator. -/
structure Neighbourhood where
  low : Nat
  value : Nat
  high : Nat
  denominator : Nat
  /-- The midpoints themselves round to the number. -/
  closed : Bool

namespace Neighbourhood

/-- The neighbourhood of `m · 2 ^ q` with 53 bits; below a power of two the gap is half as wide. -/
def ofBinary (m : Nat) (q : Int) : Neighbourhood :=
  let up := 1 <<< (q - 2).toNat
  let below := if m = 1 <<< 52 ∧ -1074 < q then 1 else 2
  { low := (4 * m - below) * up, value := 4 * m * up, high := (4 * m + 2) * up
    denominator := 1 <<< (2 - q).toNat, closed := m % 2 = 0 }

/-- In units of `10 ^ s`. -/
def scale (x : Neighbourhood) (s : Int) : Neighbourhood :=
  let up := Nat.pow 10 (-s).toNat
  { x with
    low := x.low * up, value := x.value * up, high := x.high * up
    denominator := x.denominator * Nat.pow 10 s.toNat }

def has (x : Neighbourhood) (d : Nat) : Bool :=
  let p := d * x.denominator
  if x.closed then x.low ≤ p && p ≤ x.high else x.low < p && p < x.high

/-- The whole number in the neighbourhood that is nearest to its value, an even one of two. -/
def whole? (x : Neighbourhood) : Option Nat :=
  let d := x.value / x.denominator
  let belowBy := x.value - d * x.denominator
  let aboveBy := (d + 1) * x.denominator - x.value
  let preferBelow := belowBy < aboveBy || (belowBy == aboveBy && d % 2 == 0)
  match x.has d, x.has (d + 1) with
  | true, true => some (if preferBelow then d else d + 1)
  | true, false => some d
  | false, true => some (d + 1)
  | false, false => none

end Neighbourhood

/-- The first hit on the grids from `10 ^ s` down, at most `fuel` of them. -/
def coarsest (x : Neighbourhood) (s : Int) : Nat → Nat × Int
  | 0 => (0, s)
  | fuel + 1 =>
    match (x.scale s).whole? with
    | some d => (d, s)
    | none => coarsest x (s - 1) fuel

/-- The digits and the exponent of the shortest decimal of `m · 2 ^ q`, for positive `m`; the
grids run from the greatest power of ten to the least. -/
def shortest (m : Nat) (q : Int) : Nat × Int := coarsest (.ofBinary m q) 309 640

end PatternLint.Decimal
