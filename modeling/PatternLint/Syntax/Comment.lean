import PatternLint.Text.Basic

/-! Comments. A line comment ends before its line feed; block comments nest, and one that is never
closed runs to the end of the text. -/

namespace PatternLint.Syntax.Comment

/-- What follows a line comment, its line feed included. -/
def afterLine (s : Text) : Text := s.dropWhile (· ≠ '\n')

/-- What follows a block comment inside which `nested` more are open. -/
def afterBlock (nested : Nat) : Text → Text
  | [] => []
  | '/' :: '*' :: s => afterBlock (nested + 1) s
  | '*' :: '/' :: s =>
    match nested with
    | 0 => s
    | n + 1 => afterBlock n s
  | _ :: s => afterBlock nested s

theorem length_afterLine_le (s : Text) : (afterLine s).length ≤ s.length :=
  (List.dropWhile_sublist _).length_le

theorem length_afterBlock_le (nested : Nat) (s : Text) :
    (afterBlock nested s).length ≤ s.length := by
  fun_induction afterBlock nested s <;> simp_all <;> omega

end PatternLint.Syntax.Comment
