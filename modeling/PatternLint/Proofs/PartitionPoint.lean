import PatternLint.PartitionPoint

/-! Halving finds the partition point: the places before it hold elements with the property, the
places from it on hold none. So it is the number of elements that have the property. -/

namespace PatternLint

variable {α : Type}

/-- Every place before `low` has the property, and no place from `high` on. -/
structure Parted (a : Array α) (holds : α → Bool) (low high : Nat) : Prop where
  below : ∀ i : Nat, i < low → a[i]?.any holds = true
  above : ∀ i : Nat, high ≤ i → a[i]?.any holds = false

/-- The elements with the property all come first. -/
def ComesFirst (a : Array α) (holds : α → Bool) : Prop :=
  ∀ i j : Nat, i ≤ j → a[j]?.any holds = true → a[i]?.any holds = true

theorem comesFirst_of_pairwise {a : Array α} {holds : α → Bool}
    (h : a.toList.Pairwise fun x y => holds y = true → holds x = true) : ComesFirst a holds := by
  intro i j hij hj
  obtain ⟨y, hy, hholds⟩ := (Option.any_eq_true _ _).1 hj
  obtain ⟨hjlt, rfl⟩ := Array.getElem?_eq_some_iff.1 hy
  rcases Nat.lt_or_eq_of_le hij with hlt | rfl
  · have hilt : i < a.size := Nat.lt_trans hlt hjlt
    have hx := List.pairwise_iff_getElem.1 h i j hilt hjlt hlt
    rw [Array.getElem_toList, Array.getElem_toList] at hx
    rw [Array.getElem?_eq_getElem hilt]
    exact hx hholds
  · exact hj

theorem countP_eq_of_lt_iff {l : List α} {holds : α → Bool} {n : Nat}
    (h : ∀ i, i < n ↔ l[i]?.any holds = true) : l.countP holds = n := by
  induction l generalizing n with
  | nil =>
    have hzero : ¬0 < n := fun hlt => absurd ((h 0).1 hlt) (by simp)
    rw [List.countP_nil]
    omega
  | cons x l ih =>
    cases n with
    | zero =>
      refine List.countP_eq_zero.2 fun y hy hholds => ?_
      obtain ⟨i, hi⟩ := List.mem_iff_getElem?.1 hy
      exact Nat.not_lt_zero i ((h i).2 (by rw [hi]; exact hholds))
    | succ n =>
      have hx : holds x = true := by simpa using (h 0).1 (Nat.succ_pos n)
      rw [List.countP_cons_of_pos hx, ih fun i => ?_]
      rw [← Nat.succ_lt_succ_iff, h (i + 1), List.getElem?_cons_succ]

theorem parted_partitionPointIn {a : Array α} {holds : α → Bool} (hf : ComesFirst a holds)
    {low high : Nat} (hle : low ≤ high) (h : Parted a holds low high) :
    Parted a holds (partitionPointIn a holds low high) (partitionPointIn a holds low high) := by
  fun_induction partitionPointIn a holds low high with
  | case1 low high hlt middle hm ih =>
    refine ih (by omega) ⟨fun i hi => hf i middle (by omega) hm, h.above⟩
  | case2 low high hlt middle hm ih =>
    refine ih (by omega) ⟨h.below, fun i hi => ?_⟩
    rw [Bool.eq_false_iff]
    exact fun hi' => hm (hf middle i hi hi')
  | case3 low high hlt =>
    obtain rfl : low = high := by omega
    exact h

theorem lt_partitionPoint_iff {a : Array α} {holds : α → Bool} (hf : ComesFirst a holds)
    (i : Nat) : i < partitionPoint a holds ↔ a[i]?.any holds = true := by
  have h : Parted a holds 0 a.size := ⟨by simp, by simp +contextual⟩
  have hp := parted_partitionPointIn hf (Nat.zero_le _) h
  refine ⟨?_, ?_⟩
  · exact hp.below i
  · intro hi
    apply Nat.lt_of_not_le
    intro hge
    rw [hp.above i hge] at hi
    exact absurd hi (by decide)

theorem partitionPoint_eq_countP {a : Array α} {holds : α → Bool} (hf : ComesFirst a holds) :
    partitionPoint a holds = a.toList.countP holds := by
  refine (countP_eq_of_lt_iff fun i => ?_).symm
  rw [lt_partitionPoint_iff hf, Array.getElem?_toList]

end PatternLint
