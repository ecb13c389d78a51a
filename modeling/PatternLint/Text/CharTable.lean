import PatternLint.PartitionPoint

/-! Sets of characters, given by the code points at which membership changes: a character is in
the set when an odd number of changes lie at or below it. -/

namespace PatternLint

structure CharTable where
  /-- Strictly increasing. -/
  changes : Array Nat

def CharTable.has (t : CharTable) (c : Char) : Bool :=
  partitionPoint t.changes (· ≤ c.toNat) % 2 == 1

end PatternLint
