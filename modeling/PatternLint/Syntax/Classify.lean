import PatternLint.Syntax.Comment
import PatternLint.Syntax.ExcludedSet
import PatternLint.Syntax.Literal

/-! The comments and string literals of a buffer, found from left to right: at each place the item
that begins there, or the next place. -/

namespace PatternLint.Syntax

/-- The item that begins a text, and what follows it. -/
def item? : Text → Option (Kind × Text)
  | '/' :: '/' :: s => some (.comment, Comment.afterLine s)
  | '/' :: '*' :: s => some (.comment, Comment.afterBlock 0 s)
  | s => (Literal.after? s).map fun r => (.string, r)

theorem length_item? {s r : Text} {k : Kind} (h : item? s = some (k, r)) :
    r.length < s.length := by
  fun_cases item? s
  case case1 s =>
    simp only [item?, Option.some.injEq, Prod.mk.injEq] at h
    have := Comment.length_afterLine_le s
    simp [← h.2]; omega
  case case2 s =>
    simp only [item?, Option.some.injEq, Prod.mk.injEq] at h
    have := Comment.length_afterBlock_le 0 s
    simp [← h.2]; omega
  case case3 h1 h2 =>
    rw [item?.eq_3 _ h1 h2] at h
    obtain ⟨t, ht, he⟩ := Option.map_eq_some_iff.1 h
    rw [← (Prod.mk.inj he).2]
    exact Literal.length_after? ht

/-- The items of a text that begins at `offset`. -/
def itemsFrom (offset : Nat) : Text → List Item
  | [] => []
  | c :: s =>
    match _h : item? (c :: s) with
    | some (kind, r) =>
      let stop := offset + ((c :: s).length - r.length)
      ⟨kind, ⟨offset, stop, by omega⟩⟩ :: itemsFrom stop r
    | none => itemsFrom (offset + 1) s
termination_by s => s.length
decreasing_by
  · exact length_item? _h
  · simp

def items (contents : Text) : List Item := itemsFrom 0 contents

/-- A way to find the excluded items of a buffer. -/
abbrev Classifier := Text → ExcludedSet

def classify : Classifier := fun contents => .ofList (items contents)

end PatternLint.Syntax
