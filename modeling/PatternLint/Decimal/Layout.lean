import PatternLint.Decimal.Binary
import PatternLint.Decimal.Shortest

/-! Floating-point numbers as text: the shortest decimal that reads back, laid out by place. -/

namespace PatternLint.Decimal

/-- How decimals are laid out. -/
structure Layout where
  /-- The point is written positionally when at most this many zeros stand between it and the
  first digit, -/
  leadingZeros : Nat
  /-- and when at most this many digits stand before it. -/
  wholeDigits : Nat
  exponentDigits : Nat

/-- The layout of configuration values. -/
def Layout.ofValues : Layout := ⟨3, 16, 2⟩

namespace Layout

def zeros (n : Nat) : List Char := List.replicate n '0'

/-- Digits with the point after the first `place`, which may lie outside them. -/
def positional (digits : List Char) (place : Int) : List Char :=
  if place ≤ 0 then '0' :: '.' :: zeros (-place).toNat ++ digits
  else if digits.length ≤ place.toNat then
    digits ++ zeros (place.toNat - digits.length) ++ ['.', '0']
  else digits.take place.toNat ++ '.' :: digits.drop place.toNat

/-- One digit before the point, and an exponent with its sign. -/
def scientific (layout : Layout) (digits : List Char) (place : Int) : List Char :=
  let exponent := place - 1
  let shown := Nat.toDigits 10 exponent.natAbs
  let fraction := if digits.length ≤ 1 then [] else '.' :: digits.drop 1
  digits.take 1 ++ fraction ++ 'e' :: (if exponent < 0 then '-' else '+') ::
    zeros (layout.exponentDigits - shown.length) ++ shown

def place (layout : Layout) (digits : List Char) (exponent : Int) : List Char :=
  let place := digits.length + exponent
  if -(layout.leadingZeros : Int) ≤ place ∧ place ≤ layout.wholeDigits then
    positional digits place
  else layout.scientific digits place

def signed (negative : Bool) (s : List Char) : String :=
  String.ofList (if negative then '-' :: s else s)

def render (layout : Layout) (x : Float) : String :=
  match Binary.ofFloat x with
  | .notANumber => "nan"
  | .infinite negative => signed negative ['i', 'n', 'f']
  | .finite negative 0 _ => signed negative ['0', '.', '0']
  | .finite negative m q =>
    let (d, s) := shortest m q
    signed negative (layout.place (Nat.toDigits 10 d) s)

end Layout

end PatternLint.Decimal
