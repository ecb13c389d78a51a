/-! Floating-point numbers taken apart. -/

namespace PatternLint.Decimal

/-- A number `m · 2 ^ q`, or what is no number of that kind. -/
inductive Binary where
  | finite (negative : Bool) (m : Nat) (q : Int)
  | infinite (negative : Bool)
  | notANumber

/-- By the fields of the 64-bit format: sign, 11 bits of exponent, 52 bits of fraction. -/
def Binary.ofFloat (x : Float) : Binary :=
  let bits := x.toBits.toNat
  let negative := bits >>> 63 % 2 = 1
  let exponent : Nat := bits >>> 52 % 2048
  let fraction : Nat := bits % (1 <<< 52)
  if exponent = 2047 then
    if fraction = 0 then .infinite negative else .notANumber
  else if exponent = 0 then .finite negative fraction (-1074)
  else .finite negative (fraction + 1 <<< 52) (exponent - 1075)

end PatternLint.Decimal
