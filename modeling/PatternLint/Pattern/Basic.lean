import PatternLint.Text.Basic
import PatternLint.Text.Blank
import PatternLint.Text.Case
import PatternLint.Text.Digit
import PatternLint.Text.Word

/-! Patterns: what a stretch of text may look like, with alternatives in order of preference. -/

namespace PatternLint

/-- The named kinds of character. -/
inductive Category where
  | blank
  | word
  | decimal
deriving DecidableEq

def Category.has : Category → Char → Bool
  | blank, c => isBlank c
  | word, c => isWord c
  | decimal, c => isDecimal c

inductive ClassItem where
  | range (first last : Char)
  | category (kind : Category) (negated : Bool)
deriving DecidableEq

/-- A set of characters; `folded` makes it blind to case. -/
structure CharClass where
  items : List ClassItem
  negated : Bool := false
  folded : Bool := false
deriving DecidableEq

def inRange (first last c : Char) : Bool := first.toNat ≤ c.toNat && c.toNat ≤ last.toNat

/-- Some character of the range equals `c` up to case. -/
def inFoldedRange (first last c : Char) : Bool :=
  (List.range' first.toNat (last.toNat + 1 - first.toNat)).any fun n =>
    foldCase (Char.ofNat n) == foldCase c

namespace CharClass

def itemHas (folded : Bool) (c : Char) : ClassItem → Bool
  | .range first last => if folded then inFoldedRange first last c else inRange first last c
  | .category kind negated => kind.has c != negated

def has (x : CharClass) (c : Char) : Bool := x.items.any (itemHas x.folded c) != x.negated

/-- One character. -/
def single (c : Char) : CharClass := { items := [.range c c] }

/-- Every character but one. -/
def butNot (c : Char) : CharClass := { items := [.range c c], negated := true }

def ofCategory (kind : Category) : CharClass := { items := [.category kind false] }

/-- Every character. -/
def all : CharClass := { items := [], negated := true }

end CharClass

/-- Conditions on a place between characters. -/
inductive Anchor where
  | textStart
  | lineStart
  /-- The end of the text, or before a line feed that ends it. -/
  | textEnd
  /-- The end of the text, or before any line feed. -/
  | lineEnd
  | wordEdge
deriving DecidableEq

inductive Pattern where
  | empty
  | chars (set : CharClass)
  | anchor (condition : Anchor)
  | seq (first second : Pattern)
  /-- The second is tried where the first leads to no match. -/
  | alt (first second : Pattern)
  | group (index : Nat) (body : Pattern)
  /-- At least `least` times, and at most `most` times if it is given; a greedy loop prefers to go
  on, any other prefers to stop. -/
  | loop (least : Nat) (most : Option Nat) (greedy : Bool) (body : Pattern)
  /-- The body matches here, or does not; no text is taken. -/
  | ahead (wanted : Bool) (body : Pattern)

namespace Pattern

def char (c : Char) : Pattern := chars (.single c)

def ofText (s : Text) : Pattern := s.foldr (fun c p => seq (char c) p) empty

def sequence (ps : List Pattern) : Pattern := ps.foldr seq empty

/-- As often as possible. -/
def many (p : Pattern) : Pattern := loop 0 none true p

/-- As seldom as possible. -/
def few (p : Pattern) : Pattern := loop 0 none false p

def optional (p : Pattern) : Pattern := loop 0 (some 1) true p

end Pattern

end PatternLint
