import PatternLint.Text.Basic

/-! String literals. A literal opens with any number of hashes and one or three quotes, and closes
with the same quotes and hashes. A backslash with the hashes escapes a character, or begins an
interpolation when a parenthesis follows; the code of an interpolation may hold literals. What is
open is kept in a list of any length: the limit that an interpreter sets to its own recursion, which
some 500 interpolations inside one another reach, is not part of the model. -/

namespace PatternLint.Syntax.Literal

inductive Quotes where
  | one
  | three
deriving DecidableEq

def Quotes.text : Quotes → Text
  | one => ['"']
  | three => ['"', '"', '"']

structure Opening where
  hashes : Nat
  quotes : Quotes
deriving DecidableEq

namespace Opening

def closing (o : Opening) : Text := o.quotes.text ++ List.replicate o.hashes '#'

def escape (o : Opening) : Text := '\\' :: List.replicate o.hashes '#'

end Opening

/-- The delimiter that opens a literal here, after `hashes` hashes, and the text after it. -/
def openingAfter? (hashes : Nat) : Text → Option (Opening × Text)
  | '#' :: s => openingAfter? (hashes + 1) s
  | '"' :: '"' :: '"' :: s => some (⟨hashes, .three⟩, s)
  | '"' :: s => some (⟨hashes, .one⟩, s)
  | _ => none

def opening? (s : Text) : Option (Opening × Text) := openingAfter? 0 s

/-- What is still open: the body of a literal, or code in parentheses. -/
inductive Frame where
  | body (opening : Opening)
  | code

theorem length_openingAfter? {n : Nat} {s r : Text} {o : Opening}
    (h : openingAfter? n s = some (o, r)) : r.length < s.length := by
  fun_induction openingAfter? n s <;> simp_all <;> grind

theorem length_opening? {s r : Text} {o : Opening} (h : opening? s = some (o, r)) :
    r.length < s.length :=
  length_openingAfter? h

theorem length_after_closing {o : Opening} {s r : Text} (h : Text.after? o.closing s = some r) :
    r.length < s.length := by
  have := Text.length_after? h
  cases hq : o.quotes <;> simp [Opening.closing, Quotes.text, hq] at this <;> omega

theorem length_after_escape {o : Opening} {s r : Text} (h : Text.after? o.escape s = some r) :
    r.length < s.length := by
  have := Text.length_after? h
  simp [Opening.escape] at this
  omega

/-- What follows once everything in `stack` is closed, the innermost first. A literal with one
quote ends before its line feed if nothing closes it. -/
def afterAll : List Frame → Text → Text
  | [], s => s
  | _ :: _, [] => []
  | .body o :: stack, c :: s =>
    match _h : Text.after? o.closing (c :: s) with
    | some r => afterAll stack r
    | none =>
      match _h : Text.after? o.escape (c :: s) with
      | some [] => []
      | some (d :: r) =>
        if d = '(' then afterAll (.code :: .body o :: stack) r
        else afterAll (.body o :: stack) r
      | none =>
        if o.quotes = .one ∧ c = '\n' then afterAll stack (c :: s)
        else afterAll (.body o :: stack) s
  | .code :: stack, c :: s =>
    match _h : opening? (c :: s) with
    | some (o, r) => afterAll (.body o :: .code :: stack) r
    | none =>
      if c = '(' then afterAll (.code :: .code :: stack) s
      else if c = ')' then afterAll stack s
      else afterAll (.code :: stack) s
termination_by stack s => 2 * s.length + stack.length
decreasing_by
  · have := length_after_closing _h
    simp only [List.length_cons] at this ⊢; omega
  · have := length_after_escape _h
    simp only [List.length_cons] at this ⊢; omega
  · have := length_after_escape _h
    simp only [List.length_cons] at this ⊢; omega
  · simp only [List.length_cons]; omega
  · simp only [List.length_cons]; omega
  · have := length_opening? _h
    simp only [List.length_cons] at this ⊢; omega
  · simp only [List.length_cons]; omega
  · simp only [List.length_cons]; omega
  · simp only [List.length_cons]; omega

theorem length_afterAll_le (stack : List Frame) (s : Text) :
    (afterAll stack s).length ≤ s.length := by
  fun_induction afterAll stack s with
  | case1 => exact Nat.le_refl _
  | case2 => exact Nat.le_refl _
  | case3 o stack c s r h ih => exact Nat.le_trans ih (Nat.le_of_lt (length_after_closing h))
  | case4 => exact Nat.zero_le _
  | case5 o stack c s _ r h ih =>
    have := length_after_escape h
    simp only [List.length_cons] at this ⊢
    omega
  | case6 o stack c s _ d r h _ ih =>
    have := length_after_escape h
    simp only [List.length_cons] at this ⊢
    omega
  | case7 o stack c s _ _ _ ih => exact ih
  | case8 o stack c s _ _ _ ih => exact Nat.le_succ_of_le ih
  | case9 stack c s o r h ih => exact Nat.le_trans ih (Nat.le_of_lt (length_opening? h))
  | case10 stack s h ih => exact Nat.le_succ_of_le ih
  | case11 stack s h _ ih => exact Nat.le_succ_of_le ih
  | case12 stack c s h _ _ ih => exact Nat.le_succ_of_le ih

/-- What follows the literal that begins a text. -/
def after? (s : Text) : Option Text :=
  (opening? s).map fun (o, r) => afterAll [.body o] r

theorem length_after? {s r : Text} (h : after? s = some r) : r.length < s.length := by
  obtain ⟨⟨o, t⟩, ho, rfl⟩ := Option.map_eq_some_iff.1 h
  exact Nat.lt_of_le_of_lt (length_afterAll_le _ _) (length_opening? ho)

end PatternLint.Syntax.Literal
