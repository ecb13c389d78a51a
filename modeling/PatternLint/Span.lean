/-! Half-open ranges `[start, stop)` of places in a text. -/

namespace PatternLint

structure Span where
  start : Nat
  stop : Nat
  start_le_stop : start ≤ stop := by omega
deriving DecidableEq

/-- Bounds that delimit no range. -/
structure InvalidSpan where
  start : Int
  stop : Int

def InvalidSpan.message (e : InvalidSpan) : String :=
  s!"Invalid span [{e.start}, {e.stop})"

namespace Span

/-- The range between two bounds, if they are natural numbers in order. -/
def ofBounds (start stop : Int) : Except InvalidSpan Span :=
  if h : 0 ≤ start ∧ start ≤ stop then .ok ⟨start.toNat, stop.toNat, by omega⟩
  else .error ⟨start, stop⟩

/-- The range between two places, in either order. -/
def between (a b : Nat) : Span := ⟨min a b, max a b, by omega⟩

def length (a : Span) : Nat := a.stop - a.start

/-- The ranges have a place in common, or one is empty and lies strictly inside the other. -/
def intersects (a b : Span) : Bool := a.start < b.stop && b.start < a.stop

def contains (a b : Span) : Bool := a.start ≤ b.start && b.stop ≤ a.stop

/-- By start, then by end. -/
def precedes (a b : Span) : Bool :=
  a.start < b.start || (a.start == b.start && a.stop < b.stop)

/-- The reflexive form of `precedes`, as a sort key. -/
def sortsBefore (a b : Span) : Bool := !b.precedes a

theorem intersects_comm (a b : Span) : a.intersects b = b.intersects a := by
  simp [intersects, Bool.and_comm]

end Span

end PatternLint
