import PatternLint.Span

/-! Order and equality of ranges by their bounds; ranges that follow one another, and the places
they cover. Spans no two of which intersect follow one another once they are in order. -/

namespace PatternLint.Span

variable {a b : Span}

theorem eq_of_bounds (hstart : a.start = b.start) (hstop : a.stop = b.stop) : a = b := by
  cases a
  cases b
  simp_all

theorem start_between {i j : Nat} (h : i ≤ j) : (between i j).start = i := Nat.min_eq_left h

theorem stop_between {i j : Nat} (h : i ≤ j) : (between i j).stop = j := Nat.max_eq_right h

theorem sortsBefore_iff :
    a.sortsBefore b ↔ a.start < b.start ∨ a.start = b.start ∧ a.stop ≤ b.stop := by
  simp only [sortsBefore, precedes, Bool.not_eq_true', Bool.or_eq_false_iff,
    Bool.and_eq_false_iff, decide_eq_false_iff_not, beq_eq_false_iff_ne]
  omega

theorem intersects_iff : a.intersects b ↔ a.start < b.stop ∧ b.start < a.stop := by
  simp [intersects]

theorem intersects_eq_false_iff :
    a.intersects b = false ↔ b.stop ≤ a.start ∨ a.stop ≤ b.start := by
  rw [Bool.eq_false_iff, ne_eq, intersects_iff]
  omega

theorem contains_iff : a.contains b ↔ a.start ≤ b.start ∧ b.stop ≤ a.stop := by
  simp [contains]

theorem sortsBefore_of_le (h : a.stop ≤ b.start) : a.sortsBefore b := by
  have := a.start_le_stop
  have := b.start_le_stop
  rw [sortsBefore_iff]
  omega

/-- The spans follow one another. -/
def Apart (spans : List Span) : Prop := spans.Pairwise fun a b => a.stop ≤ b.start

theorem Apart.mergeSort_eq {spans : List Span} (h : Apart spans) :
    spans.mergeSort sortsBefore = spans :=
  List.mergeSort_of_pairwise (h.imp sortsBefore_of_le)

theorem Apart.disjoint {spans : List Span} (h : Apart spans) (ha : a ∈ spans) (hb : b ∈ spans) :
    a = b ∨ a.stop ≤ b.start ∨ b.stop ≤ a.start :=
  List.Pairwise.forall_of_forall_of_flip
    (R := fun a b => a = b ∨ a.stop ≤ b.start ∨ b.stop ≤ a.start)
    (fun _ _ => .inl rfl) (h.imp fun h => .inr (.inl h)) (h.imp fun h => .inr (.inr h)) ha hb

/-- No two entries of the list intersect. -/
def Separate (spans : List Span) : Prop := spans.Pairwise fun a b => a.intersects b = false

theorem Separate.perm {spans spans' : List Span} (h : Separate spans) (hp : spans.Perm spans') :
    Separate spans' :=
  hp.pairwise h fun {a b} hab => by rw [intersects_comm, hab]

theorem sortsBefore_refl (a : Span) : a.sortsBefore a :=
  sortsBefore_iff.2 (.inr ⟨rfl, Nat.le_refl _⟩)

theorem sortsBefore_antisymm (h : a.sortsBefore b) (h' : b.sortsBefore a) : a = b := by
  rw [sortsBefore_iff] at h h'
  exact eq_of_bounds (by omega) (by omega)

theorem pairwise_mergeSort (spans : List Span) :
    (spans.mergeSort sortsBefore).Pairwise fun a b => a.sortsBefore b :=
  List.pairwise_mergeSort
    (fun a b c hab hbc => by rw [sortsBefore_iff] at *; omega)
    (fun a b => by rw [Bool.or_eq_true, sortsBefore_iff, sortsBefore_iff]; omega) spans

/-- Spans with the same bounds are the same, so only one list has them all in order. -/
theorem mergeSort_eq_of_perm {spans spans' : List Span} (hp : spans.Perm spans') :
    spans.mergeSort sortsBefore = spans'.mergeSort sortsBefore := by
  have hsorted : (spans.mergeSort sortsBefore).Perm (spans'.mergeSort sortsBefore) :=
    (List.mergeSort_perm spans _).trans (hp.trans (List.mergeSort_perm spans' _).symm)
  exact hsorted.eq_of_pairwise (fun _ _ _ _ => sortsBefore_antisymm) (pairwise_mergeSort spans)
    (pairwise_mergeSort spans')

theorem apart_mergeSort_iff {spans : List Span} :
    Apart (spans.mergeSort sortsBefore) ↔ Separate spans := by
  have hperm := List.mergeSort_perm spans sortsBefore
  refine ⟨?_, ?_⟩
  · intro h
    refine Separate.perm (h.imp fun {a b} hab => ?_) hperm
    exact intersects_eq_false_iff.2 (.inr hab)
  · intro h
    refine (pairwise_mergeSort spans).imp₂ (fun a b hab hfree => ?_) (h.perm hperm.symm)
    have := a.start_le_stop
    have := b.start_le_stop
    rw [sortsBefore_iff] at hab
    rw [intersects_eq_false_iff] at hfree
    omega

end PatternLint.Span

namespace PatternLint

/-- The place lies in one of the spans. -/
def Covered (spans : List Span) (i : Nat) : Prop := ∃ a ∈ spans, a.start ≤ i ∧ i < a.stop

/-- A place of a span lies in no other that does not intersect it. -/
theorem not_covered_of_not_intersects {spans : List Span} {b : Span} {i : Nat}
    (h : ∀ a ∈ spans, a.intersects b = false) (h1 : b.start ≤ i) (h2 : i < b.stop) :
    ¬Covered spans i := by
  rintro ⟨a, ha, h3, h4⟩
  have hfree := h a ha
  rw [Span.intersects_eq_false_iff] at hfree
  omega

end PatternLint
