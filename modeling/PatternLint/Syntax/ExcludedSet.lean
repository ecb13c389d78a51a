import PatternLint.PartitionPoint
import PatternLint.Syntax.Item

/-! Sets of excluded items, indexed so that a query looks only at items that can overlap it. The
items stand in order of their spans, each with the greatest end up to it. -/

namespace PatternLint.Syntax

structure Entry where
  item : Item
  /-- The greatest end of this item and of those before it. -/
  reach : Nat

structure ExcludedSet where
  entries : Array Entry

namespace ExcludedSet

def entriesFrom (reach : Nat) : List Item → List Entry
  | [] => []
  | i :: rest => ⟨i, max reach i.span.stop⟩ :: entriesFrom (max reach i.span.stop) rest

/-- Items of equal span keep their order. -/
def ofList (items : List Item) : ExcludedSet where
  entries := (entriesFrom 0 (items.mergeSort fun a b => a.span.sortsBefore b.span)).toArray

def toList (x : ExcludedSet) : List Item := x.entries.toList.map Entry.item

def length (x : ExcludedSet) : Nat := x.entries.size

def ofKind (x : ExcludedSet) (kind : Kind) : List Span :=
  (x.toList.filter (·.kind = kind)).map Item.span

/-- How many items start early enough to overlap `query`. An empty query may lie at the start of
an item. -/
def candidates (x : ExcludedSet) (query : Span) : Nat :=
  let bound := if query.start = query.stop then query.stop + 1 else query.stop
  partitionPoint x.entries (·.item.span.start < bound)

/-- Looks at the first `n` items from the last one back, and stops where none reaches `query`. -/
def anyOverlap (x : ExcludedSet) (query : Span) : Nat → Bool
  | 0 => false
  | n + 1 =>
    match x.entries[n]? with
    | none => false
    | some e =>
      query.start < e.reach && (e.item.span.intersects query || x.anyOverlap query n)

def intersects (x : ExcludedSet) (query : Span) : Bool := x.anyOverlap query (x.candidates query)

end ExcludedSet

end PatternLint.Syntax
