import PatternLint.Matching
import PatternLint.Pattern.Engine

/-! Declarations of optional variables with an explicit `nil`. The tail of such a declaration runs
from its equals sign, with the blanks before it, to the end of the line. -/

namespace PatternLint.Declaration

open Pattern

def blank : Pattern := chars (.ofCategory .blank)

/-- The next declarator, after a blank. -/
def declarator : Pattern :=
  sequence [blank, alt (ofText "var".toList) (ofText "let".toList), blank]

/-- One character of the set, not directly before another declarator. -/
def within (set : CharClass) : Pattern := seq (chars set) (ahead false declarator)

/-- The end of a line; a carriage return may precede it. -/
def lineEnd : Pattern := seq (optional (char '\r')) (anchor .lineEnd)

def tail : Pattern :=
  sequence [many blank, char '=', many blank, ofText "nil".toList,
    many (chars { items := [.range ' ' ' ', .range '\t' '\t'] })]

/-- The name ends at the first colon, the type at the first question mark with a tail. -/
def pattern : Pattern :=
  sequence [anchor .wordEdge, ofText "var".toList, anchor .wordEdge,
    few (within (.butNot ':')), char ':', few (within .all), char '?', group 1 tail,
    ahead true lineEnd]

def regex : Regex := ⟨pattern, 1, [("tail", 1)]⟩

def candidates (contents : Text) (excluded : Syntax.ExcludedSet) : List Candidate :=
  Matching.candidates regex.matcher (.name "tail") excluded contents

/-- The tails of optional declarations outside comments and string literals. -/
def find (contents : Text) (excluded : Syntax.ExcludedSet) : List Match :=
  Matching.accepted (candidates contents excluded)

end PatternLint.Declaration
