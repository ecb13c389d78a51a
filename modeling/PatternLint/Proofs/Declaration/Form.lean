import PatternLint.Region.Directive
import PatternLint.Proofs.Text.Place
import PatternLint.Rule.Declaration

/-! The form of a declaration with an explicit `nil`, said by places of the text alone, without
patterns or an order of attempts. -/

namespace PatternLint.Declaration

open Region (isGap)

/-- Another declarator: a blank, `var` or `let`, and a blank. -/
def DeclaratorAt (s : Text) (i : Nat) : Prop :=
  s[i]?.any isBlank ∧ (s.HoldsAt (i + 1) "var".toList ∨ s.HoldsAt (i + 1) "let".toList) ∧
    s[i + 4]?.any isBlank

/-- No character from `i` on and before `j` is directly followed by another declarator. -/
def Unbroken (s : Text) (i j : Nat) : Prop := ∀ x, i ≤ x → x < j → ¬DeclaratorAt s (x + 1)

/-- The word `var`, no part of a longer one. -/
structure KeywordAt (s : Text) (p : Nat) : Prop where
  holds : s.HoldsAt p "var".toList
  before : p = 0 ∨ ¬s[p - 1]?.any isWord
  after : ¬s[p + 3]?.any isWord

/-- The name after the keyword at `p` ends at `c`, the first colon. -/
structure NameEndsAt (s : Text) (p c : Nat) : Prop where
  le : p + 3 ≤ c
  colon : s[c]? = some ':'
  first : ∀ x, p + 3 ≤ x → x < c → s[x]? ≠ some ':'
  unbroken : Unbroken s (p + 3) c

/-- The end of the text, or of a line; a carriage return may come before. -/
def EndsLine (s : Text) (e : Nat) : Prop :=
  s[e]? = none ∨ s[e]? = some '\n' ∨
    s[e]? = some '\r' ∧ (s[e + 1]? = none ∨ s[e + 1]? = some '\n')

/-- Blanks from `a`, an equals sign at `b`, blanks, `nil` at `d`, spaces and tabs up to `e`. -/
structure Assigns (s : Text) (a b d e : Nat) : Prop where
  le : a ≤ b
  lt : b < d
  nil_le : d + 3 ≤ e
  before : ∀ x, a ≤ x → x < b → s[x]?.any isBlank
  equals : s[b]? = some '='
  between : ∀ x, b < x → x < d → s[x]?.any isBlank
  holds_nil : s.HoldsAt d "nil".toList
  after : ∀ x, d + 3 ≤ x → x < e → s[x]?.any isGap

/-- The characters of an assignment of `nil` that are no blanks. -/
def marks : Text := ['=', 'n', 'i', 'l']

/-- An assignment of `nil` that ends its line, with all the spaces and tabs that follow. -/
structure TailAt (s : Text) (a b d e : Nat) : Prop extends Assigns s a b d e where
  not_gap : ¬s[e]?.any isGap
  endsLine : EndsLine s e

/-- A tail runs from `a` to `e`. -/
def Reads (s : Text) (a e : Nat) : Prop := ∃ b d, TailAt s a b d e

/-- The question mark at `q` ends a type that begins after the colon at `c`: a tail follows, as
`reads` says what a tail is. -/
structure SignAt (s : Text) (reads : Nat → Nat → Prop) (c q e : Nat) : Prop where
  lt : c < q
  sign : s[q]? = some '?'
  tail : reads (q + 1) e
  unbroken : Unbroken s (c + 1) q

/-- The declaration of keyword `p`, colon `c` and question mark `q`, the first that is followed by
a tail. The match runs from the keyword to the end of the tail, and its span is the tail. -/
structure Form (s : Text) (reads : Nat → Nat → Prop) (p c q : Nat) (m : Match) : Prop where
  keyword : KeywordAt s p
  name : NameEndsAt s p c
  sign : SignAt s reads c q m.span.stop
  least : ∀ x e, SignAt s reads c x e → q ≤ x
  span_start : m.span.start = q + 1
  extent_start : m.extent.start = p
  extent_stop : m.extent.stop = m.span.stop

/-- A declaration begins at `p`, and `m` is its match. -/
def Declares (s : Text) (reads : Nat → Nat → Prop) (p : Nat) (m : Match) : Prop :=
  ∃ c q, Form s reads p c q m

theorem isBlank_of_isGap {c : Char} (h : isGap c = true) : isBlank c = true := by
  simp only [isGap, Bool.or_eq_true, decide_eq_true_eq] at h
  rcases h with rfl | rfl <;> decide

end PatternLint.Declaration
