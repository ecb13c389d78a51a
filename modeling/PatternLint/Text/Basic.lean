/-! Texts are lists of code points; a place in a text is the number of characters before it. -/

namespace PatternLint

abbrev Text := List Char

namespace Text

/-- What follows `lead` in a text that begins with it. -/
def after? : Text → Text → Option Text
  | [], s => some s
  | _ :: _, [] => none
  | p :: lead, c :: s => if p = c then after? lead s else none

theorem after?_eq_some {lead s r : Text} : after? lead s = some r ↔ s = lead ++ r := by
  induction lead generalizing s with
  | nil => simp [after?]
  | cons p lead ih =>
    cases s with
    | nil => simp [after?]
    | cons c s =>
      by_cases h : p = c
      · subst h; simp [after?, ih]
      · simp [after?, h, Ne.symm h]

theorem length_after? {lead s r : Text} (h : after? lead s = some r) :
    s.length = lead.length + r.length := by
  rw [after?_eq_some.1 h, List.length_append]

theorem length_after?_le {lead s r : Text} (h : after? lead s = some r) : r.length ≤ s.length := by
  rw [length_after? h]
  exact Nat.le_add_left _ _

/-- The characters between two places; places past the end count as the end. -/
def slice (s : Text) (start stop : Nat) : Text :=
  (s.drop start).take (stop - start)

end Text

end PatternLint
