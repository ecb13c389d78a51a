import PatternLint.Span
import PatternLint.Text.Quoted

/-! Items of a buffer that hold no code: comments and string literals. -/

namespace PatternLint.Syntax

inductive Kind where
  | comment
  | string
deriving DecidableEq

/-- A name that no kind has. -/
structure UnknownKind where
  name : String

def UnknownKind.message (e : UnknownKind) : String :=
  s!"{quoted e.name} is not a valid SyntaxKind"

namespace Kind

def name : Kind → String
  | comment => "comment"
  | string => "string"

def ofName (name : String) : Except UnknownKind Kind :=
  if name = "comment" then .ok comment
  else if name = "string" then .ok string
  else .error ⟨name⟩

theorem ofName_name (k : Kind) : ofName k.name = .ok k := by
  cases k <;> rfl

end Kind

structure Item where
  kind : Kind
  span : Span
deriving DecidableEq

end PatternLint.Syntax
