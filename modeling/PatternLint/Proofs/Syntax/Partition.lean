import PatternLint.Proofs.Syntax.Edges
import PatternLint.Proofs.Syntax.ExcludedSet

/-! Items and code partition a text. The items stand apart, in order and inside the text, each with
a delimiter of its kind in front; and every such delimiter lies in an item. -/

namespace PatternLint.Syntax

/-- The search for items from a place on: an item is what is read at its start, and the search goes
on where it ends; nothing is read at any other place that the search comes by. -/
inductive Search (s : Text) : Nat → List Item → Prop where
  | stop {p : Nat} (past : s.length ≤ p) : Search s p []
  | item {i : Item} {items : List Item} (lt : i.span.start < i.span.stop)
      (inside : i.span.stop ≤ s.length)
      (reads : item? (s.drop i.span.start) = some (i.kind, s.drop i.span.stop))
      (rest : Search s i.span.stop items) : Search s i.span.start (i :: items)
  | skip {p : Nat} {items : List Item} (inside : p < s.length) (none : item? (s.drop p) = none)
      (rest : Search s (p + 1) items) : Search s p items

theorem search_itemsFrom {s u : Text} {p : Nat} (h : u = s.drop p) : Search s p (itemsFrom p u) := by
  fun_induction itemsFrom p u with
  | case1 p => exact .stop (List.drop_eq_nil_iff.1 h.symm)
  | case2 p c u kind r hr stop ih =>
    have hshort := length_item? hr
    have hlength : (c :: u).length = s.length - p := by rw [h, List.length_drop]
    have hstop : r = s.drop stop := by
      rw [List.suffix_iff_eq_drop.1 (item?_suffix hr), h, List.drop_drop, ← h]
    refine .item (i := ⟨kind, ⟨p, stop, _⟩⟩) ?_ ?_ ?_ (ih hstop)
    · dsimp only [stop]
      omega
    · dsimp only [stop]
      omega
    · dsimp only
      rw [← h, ← hstop, hr]
  | case3 p c u hn ih =>
    refine .skip ?_ (h ▸ hn) (ih ?_)
    · have := congrArg List.length h
      simp only [List.length_cons, List.length_drop] at this
      omega
    · rw [← List.drop_drop, ← h, List.drop_one, List.tail_cons]

theorem search_items (s : Text) : Search s 0 (items s) := search_itemsFrom List.drop_zero.symm

namespace Search

variable {s : Text} {p x : Nat} {items : List Item} {i : Item}

theorem of_mem (h : Search s p items) (hi : i ∈ items) :
    p ≤ i.span.start ∧ i.span.start < i.span.stop ∧ i.span.stop ≤ s.length ∧
      item? (s.drop i.span.start) = some (i.kind, s.drop i.span.stop) := by
  induction h with
  | stop => simp at hi
  | item lt inside reads rest ih =>
    rcases List.mem_cons.1 hi with rfl | hi
    · exact ⟨Nat.le_refl _, lt, inside, reads⟩
    · exact ⟨Nat.le_trans (Nat.le_of_lt lt) (ih hi).1, (ih hi).2⟩
  | skip inside none rest ih => exact ⟨Nat.le_of_succ_le (ih hi).1, (ih hi).2⟩

theorem apart (h : Search s p items) : Span.Apart (items.map Item.span) := by
  induction h with
  | stop => exact .nil
  | item lt inside reads rest ih =>
    refine .cons (fun a ha => ?_) ih
    obtain ⟨i, hi, rfl⟩ := List.mem_map.1 ha
    exact (rest.of_mem hi).1
  | skip inside none rest ih => exact ih

theorem covered_of_reads (h : Search s p items) (hp : p ≤ x) (hx : x < s.length)
    (hr : item? (s.drop x) ≠ none) : Covered (items.map Item.span) x := by
  induction h with
  | stop past => omega
  | @item i items lt inside reads rest ih =>
    rcases Nat.lt_or_ge x i.span.stop with hlt | hge
    · exact ⟨i.span, by simp, hp, hlt⟩
    · obtain ⟨a, ha, hax⟩ := ih hge
      exact ⟨a, List.mem_cons_of_mem _ ha, hax⟩
  | @skip p items inside none rest ih =>
    rcases Nat.eq_or_lt_of_le hp with rfl | hlt
    · exact absurd none hr
    · exact ih hlt

end Search

/-- The items are found in the order in which a set keeps them. -/
theorem toList_classify (s : Text) : (classify s).toList = items s := by
  have h := (search_items s).apart
  rw [Span.Apart, List.pairwise_map] at h
  rw [classify, ExcludedSet.toList_ofList]
  exact List.mergeSort_of_pairwise (h.imp Span.sortsBefore_of_le)

/-- The items of a text: they lie in the text and are not empty, follow one another, begin with
what opens an item of their kind, and leave nothing outside them that opens one. -/
structure Partition (s : Text) (items : List Item) : Prop where
  inside : ∀ i ∈ items, i.span.start < i.span.stop ∧ i.span.stop ≤ s.length
  apart : items.Pairwise fun i j => i.span.stop ≤ j.span.start
  opens : ∀ i ∈ items, OpensAt s i.span.start i.kind
  clear : ∀ x, ¬Covered (items.map Item.span) x → ∀ kind, ¬OpensAt s x kind

theorem partition_items (s : Text) : Partition s (items s) where
  inside i hi := ((search_items s).of_mem hi).2.imp_right And.left
  apart := List.pairwise_map.1 (search_items s).apart
  opens i hi := (item?_isSome_iff s i.span.start).1 ⟨_, ((search_items s).of_mem hi).2.2.2⟩
  clear x hx kind h := by
    obtain ⟨c, -, hc⟩ := h.edge
    obtain ⟨r, hr⟩ := (item?_isSome_iff s x).2 h
    refine hx ((search_items s).covered_of_reads (Nat.zero_le x) ?_ (by simp [hr]))
    exact (List.getElem?_eq_some_iff.1 hc).1

section
variable {s : Text} {i : Item} {x : Nat}

theorem edge_at_start (hi : i ∈ items s) : ∃ c ∈ edges, s[i.span.start]? = some c :=
  ((partition_items s).opens i hi).edge

/-- An item that ends before the end of its line has a delimiter at its end. -/
theorem edge_before_stop (hi : i ∈ items s) (hend : s[i.span.stop]? ≠ none)
    (hfeed : s[i.span.stop]? ≠ some '\n') : ∃ c ∈ edges, s[i.span.stop - 1]? = some c := by
  obtain ⟨-, hlt, hinside, hreads⟩ := (search_items s).of_mem hi
  obtain ⟨c, hc, hs⟩ := item?_edge hreads (by simpa using hend) (by rwa [List.head?_drop])
  exact ⟨c, hc, Text.getElem?_of_cons_suffix hinside (hs.trans (List.drop_suffix _ s))⟩

/-- No item begins at a character that opens none. -/
theorem not_covered_succ (hx : ¬Covered ((items s).map Item.span) x)
    (hc : ∀ c ∈ edges, s[x + 1]? ≠ some c) : ¬Covered ((items s).map Item.span) (x + 1) := by
  rintro ⟨a, ha, h1, h2⟩
  obtain ⟨i, hi, rfl⟩ := List.mem_map.1 ha
  obtain ⟨c, hmem, hstart⟩ := edge_at_start hi
  rcases Nat.lt_or_eq_of_le h1 with hlt | heq
  · exact hx ⟨i.span, ha, Nat.le_of_lt_succ hlt, by omega⟩
  · exact hc c hmem (heq ▸ hstart)

end

/-- The items of any text partition it, and wherever hashes and a quote stand a literal is read. -/
theorem classify_partitions (s : Text) :
    Partition s (classify s).toList ∧
      ∀ x, OpensAt s x .string → (Literal.after? (s.drop x)).isSome := by
  rw [toList_classify]
  exact ⟨partition_items s, fun x h => (Literal.after?_isSome_iff _).2 h⟩

end PatternLint.Syntax
