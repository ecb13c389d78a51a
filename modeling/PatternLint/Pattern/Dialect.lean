import PatternLint.Pattern.Matcher
import PatternLint.Unforeseen

/-! Libraries of patterns. A library reads a written pattern under flags, and for a pattern that it
has read it reads templates of what is to stand in place of a match. It says what is wrong with a
text that it cannot read, or fails in a way that is not its own. -/

namespace PatternLint

inductive Fault where
  | invalid (detail : String)
  | unforeseen (e : Unforeseen)
deriving DecidableEq

/-- What a template makes of a match in a text. -/
abbrev Expansion := Text → Found → Text

/-- A pattern that has been read. -/
structure Compiled where
  matcher : Matcher
  template : Text → Except Fault Expansion

/-- How patterns are read; the flags are the binary digits of a number. -/
structure Dialect where
  compile : Int → Text → Except Fault Compiled

/-- Patterns of rules are read with lines that begin and end anywhere in the text, and with a dot
that takes any character. -/
def Dialect.ofRule (dialect : Dialect) (pattern : Text) : Except Fault Compiled :=
  dialect.compile 24 pattern

end PatternLint
