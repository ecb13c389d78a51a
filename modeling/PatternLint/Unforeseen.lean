/-! Errors that no handler is made for: such an error leaves the run in which it arises. -/

namespace PatternLint

inductive Unforeseen where
  /-- A number is too large for its use. -/
  | tooLarge (message : String)
  /-- A value of the right kind that cannot be dealt with. -/
  | badValue (message : String)
  | other (message : String)
deriving DecidableEq

def Unforeseen.message : Unforeseen → String
  | tooLarge message => message
  | badValue message => message
  | other message => message

/-- A number of more digits is neither read nor printed in decimal. -/
def maxDigits : Nat := 4300

/-- A number cannot be read that is written with so many digits. -/
def Unforeseen.tooManyDigits (digits : Nat) : Unforeseen :=
  .badValue (s!"Exceeds the limit ({maxDigits} digits) for integer string conversion: " ++
    s!"value has {digits} digits; use sys.set_int_max_str_digits() to increase the limit")

end PatternLint
