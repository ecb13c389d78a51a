/-! The partition point of an array whose elements with a property all come first: how many have
it, found by halving. -/

namespace PatternLint

/-- The partition point, known to lie between `low` and `high`. -/
def partitionPointIn {α : Type} (a : Array α) (holds : α → Bool) (low high : Nat) : Nat :=
  if low < high then
    let middle := (low + high) / 2
    if a[middle]?.any holds then partitionPointIn a holds (middle + 1) high
    else partitionPointIn a holds low middle
  else low
termination_by high - low

def partitionPoint {α : Type} (a : Array α) (holds : α → Bool) : Nat :=
  partitionPointIn a holds 0 a.size

end PatternLint
