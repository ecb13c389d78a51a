import PatternLint.Syntax.Classify

/-! The search for items one place at a time: an equation for each thing that can happen in the
innermost open frame of a literal, and one for each answer at a place of the buffer. -/

namespace PatternLint.Syntax

namespace Literal

theorem afterAll_nil (s : Text) : afterAll [] s = s := by
  rw [afterAll]

theorem afterAll_at_end (stack : List Frame) : afterAll stack [] = [] := by
  cases stack with
  | nil => rw [afterAll]
  | cons f stack => rw [afterAll]

theorem afterAll_body_cons (o : Opening) (stack : List Frame) (c : Char) (s : Text) :
    afterAll (.body o :: stack) (c :: s) =
      match Text.after? o.closing (c :: s) with
      | some r => afterAll stack r
      | none =>
        match Text.after? o.escape (c :: s) with
        | some [] => []
        | some (d :: r) =>
          if d = '(' then afterAll (.code :: .body o :: stack) r
          else afterAll (.body o :: stack) r
        | none =>
          if o.quotes = .one ∧ c = '\n' then afterAll stack (c :: s)
          else afterAll (.body o :: stack) s := by
  rw [afterAll]
  split
  · rename_i h
    simp only [h]
  · rename_i h
    simp only [h]
    split
    · rename_i h'
      simp only [h']
    · rename_i h'
      simp only [h']
    · rename_i h'
      simp only [h']

theorem afterAll_code_cons (stack : List Frame) (c : Char) (s : Text) :
    afterAll (.code :: stack) (c :: s) =
      match opening? (c :: s) with
      | some (o, r) => afterAll (.body o :: .code :: stack) r
      | none =>
        if c = '(' then afterAll (.code :: .code :: stack) s
        else if c = ')' then afterAll stack s
        else afterAll (.code :: stack) s := by
  rw [afterAll]
  split
  · rename_i h
    simp only [h]
  · rename_i h
    simp only [h]

section
variable {o : Opening} {stack : List Frame} {c d : Char} {s r : Text}

/-! What can happen in the body of a literal: it closes, an escape is passed or begins an
interpolation, the line ends, or a character is passed. -/

theorem afterAll_closing (h : Text.after? o.closing s = some r) :
    afterAll (.body o :: stack) s = afterAll stack r := by
  cases s with
  | nil => exact absurd (length_after_closing h) (Nat.not_lt_zero _)
  | cons c s => rw [afterAll_body_cons, h]

theorem afterAll_escape_end (hc : Text.after? o.closing s = none)
    (he : Text.after? o.escape s = some []) : afterAll (.body o :: stack) s = [] := by
  cases s with
  | nil => exact afterAll_at_end _
  | cons c s => rw [afterAll_body_cons, hc, he]

theorem afterAll_interpolation (hc : Text.after? o.closing s = none)
    (he : Text.after? o.escape s = some ('(' :: r)) :
    afterAll (.body o :: stack) s = afterAll (.code :: .body o :: stack) r := by
  cases s with
  | nil => exact absurd (length_after_escape he) (Nat.not_lt_zero _)
  | cons c s =>
    rw [afterAll_body_cons, hc, he]
    exact if_pos rfl

theorem afterAll_escaped (hc : Text.after? o.closing s = none)
    (he : Text.after? o.escape s = some (d :: r)) (hd : d ≠ '(') :
    afterAll (.body o :: stack) s = afterAll (.body o :: stack) r := by
  cases s with
  | nil => exact absurd (length_after_escape he) (Nat.not_lt_zero _)
  | cons c s =>
    rw [afterAll_body_cons, hc, he]
    exact if_neg hd

theorem afterAll_feed (hc : Text.after? o.closing ('\n' :: s) = none)
    (he : Text.after? o.escape ('\n' :: s) = none) (hq : o.quotes = .one) :
    afterAll (.body o :: stack) ('\n' :: s) = afterAll stack ('\n' :: s) := by
  rw [afterAll_body_cons, hc, he]
  exact if_pos ⟨hq, rfl⟩

theorem afterAll_plain (hc : Text.after? o.closing (c :: s) = none)
    (he : Text.after? o.escape (c :: s) = none) (hline : ¬(o.quotes = .one ∧ c = '\n')) :
    afterAll (.body o :: stack) (c :: s) = afterAll (.body o :: stack) s := by
  rw [afterAll_body_cons, hc, he]
  exact if_neg hline

/-! What can happen in code: a literal opens, a parenthesis opens or closes, or a character is
passed. -/

theorem afterAll_literal (h : opening? s = some (o, r)) :
    afterAll (.code :: stack) s = afterAll (.body o :: .code :: stack) r := by
  cases s with
  | nil => exact absurd (length_opening? h) (Nat.not_lt_zero _)
  | cons c s => rw [afterAll_code_cons, h]

theorem afterAll_open (s : Text) :
    afterAll (.code :: stack) ('(' :: s) = afterAll (.code :: .code :: stack) s :=
  afterAll_code_cons stack '(' s

theorem afterAll_close (s : Text) : afterAll (.code :: stack) (')' :: s) = afterAll stack s :=
  afterAll_code_cons stack ')' s

theorem afterAll_code (h : opening? (c :: s) = none) (hopen : c ≠ '(') (hclose : c ≠ ')') :
    afterAll (.code :: stack) (c :: s) = afterAll (.code :: stack) s := by
  rw [afterAll_code_cons, h]
  exact (if_neg hopen).trans (if_neg hclose)

end

end Literal

variable {offset : Nat} {c : Char} {s r : Text} {kind : Kind}

theorem itemsFrom_nil (offset : Nat) : itemsFrom offset [] = [] := by
  rw [itemsFrom]

/-- An item that begins at `offset` is listed, and the search goes on behind it. -/
theorem itemsFrom_of_some (h : item? (c :: s) = some (kind, r)) :
    itemsFrom offset (c :: s) =
      ⟨kind, ⟨offset, offset + ((c :: s).length - r.length), Nat.le_add_right _ _⟩⟩ ::
        itemsFrom (offset + ((c :: s).length - r.length)) r := by
  rw [itemsFrom]
  split
  · rename_i h'
    obtain ⟨rfl, rfl⟩ := Prod.mk.inj (Option.some.inj (h.symm.trans h'))
    rfl
  · rename_i h'
    rw [h] at h'
    contradiction

theorem itemsFrom_of_none (h : item? (c :: s) = none) :
    itemsFrom offset (c :: s) = itemsFrom (offset + 1) s := by
  rw [itemsFrom]
  split
  · rename_i h'
    rw [h] at h'
    contradiction
  · rfl

end PatternLint.Syntax
