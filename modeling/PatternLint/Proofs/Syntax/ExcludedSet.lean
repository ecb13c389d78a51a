import PatternLint.Proofs.PartitionPoint
import PatternLint.Proofs.Span
import PatternLint.Syntax.ExcludedSet

/-! A query of an excluded set finds an overlap exactly when some item overlaps the query, in
whatever order the items were given: the search by start and the early stop at the running greatest
end lose none. -/

namespace PatternLint.Syntax

/-- The order in which a set keeps its items. -/
def Item.sortsBefore (i j : Item) : Bool := i.span.sortsBefore j.span

namespace ExcludedSet

theorem sortsBefore_trans (i j k : Item) (hij : i.sortsBefore j) (hjk : j.sortsBefore k) :
    i.sortsBefore k := by
  simp only [Item.sortsBefore, Span.sortsBefore_iff] at *
  omega

theorem sortsBefore_total (i j : Item) : i.sortsBefore j || j.sortsBefore i := by
  simp only [Bool.or_eq_true, Item.sortsBefore, Span.sortsBefore_iff]
  omega

theorem start_le_of_sortsBefore {i j : Item} (h : i.sortsBefore j) :
    i.span.start ≤ j.span.start := by
  simp only [Item.sortsBefore, Span.sortsBefore_iff] at h
  omega

theorem map_item_entriesFrom (reach : Nat) (items : List Item) :
    (entriesFrom reach items).map Entry.item = items := by
  induction items generalizing reach with
  | nil => rfl
  | cons i rest ih => simp [entriesFrom, ih]

theorem entries_ofList (items : List Item) :
    (ofList items).entries.toList = entriesFrom 0 (items.mergeSort Item.sortsBefore) := rfl

theorem toList_ofList (items : List Item) :
    (ofList items).toList = items.mergeSort Item.sortsBefore := by
  rw [toList, entries_ofList, map_item_entriesFrom]

theorem mem_toList_ofList {items : List Item} {i : Item} :
    i ∈ (ofList items).toList ↔ i ∈ items := by
  rw [toList_ofList]
  exact List.mem_mergeSort

theorem exists_of_mem_ofKind {items : List Item} {kind : Kind} {a : Span}
    (h : a ∈ (ofList items).ofKind kind) : ∃ i ∈ items, i.span = a := by
  obtain ⟨i, hi, rfl⟩ := List.mem_map.1 h
  exact ⟨i, mem_toList_ofList.1 (List.mem_filter.1 hi).1, rfl⟩

theorem getElem?_toList (x : ExcludedSet) (n : Nat) :
    x.toList[n]? = x.entries[n]?.map Entry.item := by
  simp [toList]

theorem pairwise_toList_ofList (items : List Item) :
    (ofList items).toList.Pairwise fun i j => i.span.start ≤ j.span.start := by
  rw [toList_ofList]
  exact (List.pairwise_mergeSort sortsBefore_trans sortsBefore_total items).imp
    start_le_of_sortsBefore

/-- An entry reaches beyond a place when its own item or one before it does. -/
theorem lt_reach_iff {items : List Item} {reach n place : Nat} {e : Entry}
    (h : (entriesFrom reach items)[n]? = some e) :
    place < e.reach ↔ place < reach ∨ ∃ m ≤ n, ∃ i, items[m]? = some i ∧ place < i.span.stop := by
  induction items generalizing reach n with
  | nil => simp [entriesFrom] at h
  | cons i rest ih =>
    cases n with
    | zero =>
      simp only [entriesFrom, List.getElem?_cons_zero, Option.some.injEq] at h
      simp only [← h, Nat.le_zero_eq, exists_eq_left, List.getElem?_cons_zero, Option.some.injEq,
        exists_eq_left']
      omega
    | succ n =>
      rw [entriesFrom, List.getElem?_cons_succ] at h
      rw [ih h]
      refine ⟨?_, ?_⟩
      · intro hd
        rcases hd with hr | ⟨m, hm, j, hj, hp⟩
        · rcases (by omega : place < reach ∨ place < i.span.stop) with hr | hr
          · exact .inl hr
          · exact .inr ⟨0, by omega, i, rfl, hr⟩
        · exact .inr ⟨m + 1, by omega, j, hj, hp⟩
      · intro hd
        rcases hd with hr | ⟨m, hm, j, hj, hp⟩
        · exact .inl (by omega)
        · cases m with
          | zero =>
            obtain rfl : i = j := by simpa using hj
            exact .inl (by omega)
          | succ m => exact .inr ⟨m, by omega, j, hj, hp⟩

theorem lt_reach_ofList_iff {items : List Item} {n place : Nat} {e : Entry}
    (h : (ofList items).entries[n]? = some e) :
    place < e.reach ↔ ∃ m ≤ n, ∃ i, (ofList items).toList[m]? = some i ∧ place < i.span.stop := by
  rw [← Array.getElem?_toList, entries_ofList] at h
  rw [lt_reach_iff h, toList_ofList]
  simp

/-- The items that a query is compared with if none of them overlaps it: from the last of the first
`n` items back to where none reaches the query. -/
def lookBack (x : ExcludedSet) (query : Span) : Nat → List Item
  | 0 => []
  | n + 1 =>
    match x.entries[n]? with
    | none => []
    | some e => if query.start < e.reach then e.item :: x.lookBack query n else []

def lookedAt (x : ExcludedSet) (query : Span) : List Item := x.lookBack query (x.candidates query)

theorem anyOverlap_eq_any (x : ExcludedSet) (query : Span) (n : Nat) :
    x.anyOverlap query n = (x.lookBack query n).any (·.span.intersects query) := by
  induction n with
  | zero => rfl
  | succ n ih =>
    unfold anyOverlap lookBack
    cases x.entries[n]? with
    | none => rfl
    | some e =>
      by_cases hreach : query.start < e.reach
      · simp [hreach, ih]
      · simp [hreach]

/-- What the early stop leaves out ends before the query. -/
theorem filter_lookBack {items : List Item} {query : Span} {n : Nat}
    (hn : n ≤ (ofList items).entries.size) :
    ((ofList items).lookBack query n).filter (·.span.intersects query) =
      (((ofList items).toList.take n).filter (·.span.intersects query)).reverse := by
  induction n with
  | zero => rfl
  | succ n ih =>
    have he : (ofList items).entries[n]? = some (ofList items).entries[n] := by simp
    have hi : (ofList items).toList[n]? = some (ofList items).entries[n].item := by
      rw [getElem?_toList, he]; rfl
    by_cases hreach : query.start < (ofList items).entries[n].reach
    · rw [List.take_add_one, hi, Option.toList_some, List.filter_append, List.reverse_append,
        ← ih (Nat.le_of_succ_le hn), lookBack, he]
      dsimp only
      rw [if_pos hreach, List.filter_cons, List.filter_cons]
      split
      · rfl
      · rfl
    · have hnone : ((ofList items).toList.take (n + 1)).filter (·.span.intersects query) = [] := by
        refine List.filter_eq_nil_iff.2 fun i hmem hq => hreach ?_
        obtain ⟨m, hm⟩ := List.mem_iff_getElem?.1 hmem
        rw [List.getElem?_take] at hm
        split at hm
        · exact (lt_reach_ofList_iff he).2 ⟨m, by omega, i, hm, (Span.intersects_iff.1 hq).2⟩
        · cases hm
      rw [hnone, lookBack, he]
      dsimp only
      rw [if_neg hreach]
      rfl

theorem comesFirst_start (items : List Item) (bound : Nat) :
    ComesFirst (ofList items).entries (·.item.span.start < bound) := by
  have h := pairwise_toList_ofList items
  rw [toList, List.pairwise_map] at h
  refine comesFirst_of_pairwise (h.imp fun hle hlt => ?_)
  rw [decide_eq_true_eq] at hlt ⊢
  exact Nat.lt_of_le_of_lt hle hlt

/-- The places of the items that start early enough for a query. -/
theorem lt_candidates_iff (items : List Item) (query : Span) (n : Nat) :
    n < (ofList items).candidates query ↔ ∃ i, (ofList items).toList[n]? = some i ∧
      i.span.start < (if query.start = query.stop then query.stop + 1 else query.stop) := by
  rw [candidates, lt_partitionPoint_iff (comesFirst_start items _), Option.any_eq_true]
  simp only [getElem?_toList, Option.map_eq_some_iff, decide_eq_true_eq]
  refine ⟨?_, ?_⟩
  · intro h
    obtain ⟨e, he, hb⟩ := h
    exact ⟨_, ⟨e, he, rfl⟩, hb⟩
  · intro h
    obtain ⟨_, ⟨e, he, rfl⟩, hb⟩ := h
    exact ⟨e, he, hb⟩

theorem candidates_le_size (items : List Item) (query : Span) :
    (ofList items).candidates query ≤ (ofList items).entries.size := by
  apply Nat.le_of_not_lt
  intro hlt
  obtain ⟨i, hi, -⟩ := (lt_candidates_iff items query _).1 hlt
  have := (List.getElem?_eq_some_iff.1 hi).1
  simp [toList] at this

/-- What the search by start leaves out begins behind the query. -/
theorem filter_take_candidates (items : List Item) (query : Span) :
    ((ofList items).toList.take ((ofList items).candidates query)).filter
      (·.span.intersects query) = (ofList items).toList.filter (·.span.intersects query) := by
  have hlate : ((ofList items).toList.drop ((ofList items).candidates query)).filter
      (·.span.intersects query) = [] := by
    refine List.filter_eq_nil_iff.2 fun i hmem hq => ?_
    obtain ⟨m, hm⟩ := List.mem_iff_getElem?.1 hmem
    rw [List.getElem?_drop] at hm
    have hstart := (Span.intersects_iff.1 hq).1
    have hcandidate := (lt_candidates_iff items query _).2 ⟨i, hm, by split <;> omega⟩
    omega
  have hsplit := congrArg (List.filter (·.span.intersects query))
    (List.take_append_drop ((ofList items).candidates query) (ofList items).toList)
  rwa [List.filter_append, hlate, List.append_nil] at hsplit

/-- A query is compared with every item that overlaps it, as often as the item was given. -/
theorem perm_filter_lookedAt (items : List Item) (query : Span) :
    (((ofList items).lookedAt query).filter (·.span.intersects query)).Perm
      (items.filter (·.span.intersects query)) := by
  rw [lookedAt, filter_lookBack (candidates_le_size items query), filter_take_candidates,
    toList_ofList]
  exact (List.reverse_perm _).trans ((List.mergeSort_perm items _).filter _)

theorem intersects_ofList_iff {items : List Item} {query : Span} :
    (ofList items).intersects query = true ↔ ∃ i ∈ items, i.span.intersects query := by
  have hmem (i : Item) := (perm_filter_lookedAt items query).mem_iff (a := i)
  simp only [List.mem_filter] at hmem
  rw [intersects, anyOverlap_eq_any, ← lookedAt, List.any_eq_true]
  exact exists_congr hmem

/-- A query says whether some item overlaps it, in whatever order the items were given. Unless it
finds one before, it is compared with each item that overlaps it, as often as that was given: the
search by start and the early stop leave none out. -/
theorem intersects_misses_none (items : List Item) (query : Span) :
    let x := ofList items
    x.intersects query = items.any (·.span.intersects query) ∧
      x.intersects query = (x.lookedAt query).any (·.span.intersects query) ∧
      ((x.lookedAt query).filter (·.span.intersects query)).Perm
        (items.filter (·.span.intersects query)) := by
  intro x
  refine ⟨?_, anyOverlap_eq_any x query _, perm_filter_lookedAt items query⟩
  rw [Bool.eq_iff_iff, intersects_ofList_iff, List.any_eq_true]

/-- No item overlaps `query`. -/
def Avoids (items : List Item) (query : Span) : Prop :=
  ∀ i ∈ items, i.span.intersects query = false

theorem Avoids.not_covered {items : List Item} {query : Span} (h : Avoids items query) {x : Nat}
    (h1 : query.start ≤ x) (h2 : x < query.stop) : ¬Covered (items.map Item.span) x :=
  not_covered_of_not_intersects (List.forall_mem_map.2 h) h1 h2

theorem avoids_iff {items : List Item} {query : Span} :
    Avoids items query ↔ (ofList items).intersects query = false := by
  rw [Bool.eq_false_iff, ne_eq, intersects_ofList_iff]
  simp [Avoids]

end ExcludedSet

end PatternLint.Syntax
