import PatternLint.Pattern.Matcher
import PatternLint.Syntax.ExcludedSet

/-! Matches outside comments and string literals. A candidate that overlaps an excluded item, or
in which the group to report took no part, is dropped, and the search resumes one character after
its start; after a match it resumes at the match's end. -/

namespace PatternLint

/-- A match: what it reports and rewrites, and its whole extent. -/
structure Match where
  span : Span
  extent : Span
deriving DecidableEq

/-- What becomes of a candidate. -/
inductive Candidate where
  | excluded (extent : Span)
  | groupless (extent : Span)
  | accepted (found : Match)
  /-- The group to report is none of the pattern's. -/
  | unknownGroup
deriving DecidableEq

namespace Candidate

def match? : Candidate → Option Match
  | accepted m => some m
  | _ => none

/-- Where the search goes on, if it does. -/
def resume? : Candidate → Option Nat
  | excluded extent => some (extent.start + 1)
  | groupless extent => some (extent.start + 1)
  | accepted m => some (max m.extent.stop (m.extent.start + 1))
  | unknownGroup => none

end Candidate

namespace Matching

def judge (matcher : Matcher) (group : GroupRef) (excluded : Syntax.ExcludedSet)
    (found : Found) : Candidate :=
  if excluded.intersects found.extent then .excluded found.extent
  else
    match matcher.group? group with
    | none => .unknownGroup
    | some index =>
      match found.group? index with
      | none => .groupless found.extent
      | some span => .accepted ⟨span, found.extent⟩

/-- The candidates from `place` on, in order. -/
def candidatesFrom (matcher : Matcher) (group : GroupRef) (excluded : Syntax.ExcludedSet)
    (contents : Text) (place : Nat) : List Candidate :=
  if place ≤ contents.length then
    match matcher.search contents place with
    | none => []
    | some found =>
      let candidate := judge matcher group excluded found
      match candidate.resume? with
      | none => [candidate]
      | some next =>
        candidate :: candidatesFrom matcher group excluded contents (max next (place + 1))
  else []
termination_by contents.length + 1 - place

def candidates (matcher : Matcher) (group : GroupRef) (excluded : Syntax.ExcludedSet)
    (contents : Text) : List Candidate :=
  candidatesFrom matcher group excluded contents 0

/-- The accepted candidates. -/
def accepted (candidates : List Candidate) : List Match := candidates.filterMap Candidate.match?

end Matching

/-- A group that the pattern does not have. -/
structure NoSuchGroup where

def NoSuchGroup.message (_ : NoSuchGroup) : String := "no such group"

/-- The matches of a pattern outside the excluded items; that the group is unknown shows only when
a match survives. -/
def Matcher.matches (matcher : Matcher) (group : GroupRef) (excluded : Syntax.ExcludedSet)
    (contents : Text) : Except NoSuchGroup (List Match) :=
  let candidates := Matching.candidates matcher group excluded contents
  if candidates.contains .unknownGroup then .error {} else .ok (Matching.accepted candidates)

end PatternLint
