import PatternLint.Span
import PatternLint.Text.Basic

/-! What searches ask of a compiled pattern, whatever its notation and its engine: the match that
begins at a place of a text, and the leftmost one from a place on. A place comes with the whole
text, so what stands before it is still seen. -/

namespace PatternLint

/-- A match: its whole extent, and the ranges of its groups, the latest first. -/
structure Found where
  extent : Span
  groups : List (Nat × Span)
deriving DecidableEq

/-- Group 0 is the whole extent; a group that took no part has no range. -/
def Found.group? (f : Found) (index : Nat) : Option Span :=
  if index = 0 then some f.extent else f.groups.lookup index

/-- A group asked for by number or by name. -/
inductive GroupRef where
  | index (n : Int)
  | name (s : String)

/-- A compiled pattern. Nothing is known of a match but where it begins; its groups may lie
anywhere. -/
structure Matcher where
  /-- Groups are numbered from 1. -/
  groupCount : Nat
  names : List (String × Nat)
  /-- The match that begins at a place. -/
  matchAt : Text → Nat → Option Found
  /-- The match that is found from a place on. -/
  search : Text → Nat → Option Found
  start_matchAt {s : Text} {i : Nat} {f : Found} : matchAt s i = some f → f.extent.start = i
  /-- A search finds the match at the first place where there is one. -/
  search_eq_some_iff {s : Text} {i : Nat} {f : Found} : i ≤ s.length →
    (search s i = some f ↔ i ≤ f.extent.start ∧ f.extent.start ≤ s.length ∧
      matchAt s f.extent.start = some f ∧ ∀ j, i ≤ j → j < f.extent.start → matchAt s j = none)

/-- The number of a group that the pattern has. -/
def Matcher.group? (matcher : Matcher) : GroupRef → Option Nat
  | .index n => if 0 ≤ n ∧ n ≤ matcher.groupCount then some n.toNat else none
  | .name s => matcher.names.lookup s

end PatternLint
