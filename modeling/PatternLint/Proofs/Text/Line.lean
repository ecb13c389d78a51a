import PatternLint.Proofs.PartitionPoint
import PatternLint.Source

/-! Offsets inside the buffer can be located, one or many. The line of an offset, found by halving in
the index of line starts, is one more than the number of line feeds before the offset. -/

namespace PatternLint

theorem mapM_eq_ok {ε α β : Type} {f : α → Except ε β} {g : α → β} {l : List α}
    (h : ∀ a ∈ l, f a = .ok (g a)) : l.mapM f = .ok (l.map g) := by
  induction l with
  | nil => rfl
  | cons a l ih =>
    obtain ⟨ha, hl⟩ := List.forall_mem_cons.1 h
    rw [List.mapM_cons, ha, ih hl]
    rfl

theorem lt_of_mem_lineStartsFrom {k start : Nat} {s : Text} (h : start ∈ lineStartsFrom k s) :
    k < start := by
  fun_induction lineStartsFrom k s with
  | case1 k => cases h
  | case2 k s ih =>
    rcases List.mem_cons.1 h with rfl | h
    · exact Nat.lt_succ_self k
    · exact Nat.lt_of_succ_lt (ih h)
  | case3 k c s hc ih => exact Nat.lt_of_succ_lt (ih h)

theorem pairwise_lineStartsFrom (k : Nat) (s : Text) :
    (lineStartsFrom k s).Pairwise (· < ·) := by
  fun_induction lineStartsFrom k s with
  | case1 k => exact .nil
  | case2 k s ih => exact .cons (fun start hstart => lt_of_mem_lineStartsFrom hstart) ih
  | case3 k c s hc ih => exact ih

/-- A line feed before a place has its line start at or before the place. -/
theorem countP_lineStartsFrom (k n : Nat) (s : Text) :
    (lineStartsFrom k s).countP (· ≤ k + n) = (s.take n).count '\n' := by
  induction s generalizing k n with
  | nil => simp [lineStartsFrom]
  | cons c s ih =>
    cases n with
    | zero =>
      refine List.countP_eq_zero.2 fun start hstart => ?_
      rw [decide_eq_true_eq]
      exact Nat.not_le.2 (lt_of_mem_lineStartsFrom hstart)
    | succ n =>
      have hplace : k + (n + 1) = k + 1 + n := by omega
      rw [hplace, lineStartsFrom, List.take_succ_cons]
      split
      · rename_i hc
        rw [List.countP_cons_of_pos (by simp), ih, hc, List.count_cons_self]
      · rename_i hc
        rw [ih, List.count_cons_of_ne hc]

namespace Source

theorem location?_of_le {source : Source} {offset : Nat} (h : offset ≤ source.length) :
    source.location? offset = .ok (source.locate offset) := by
  rw [location?, if_pos (by omega), Int.toNat_natCast]

theorem comesFirst_lineStarts (source : Source) (offset : Nat) :
    ComesFirst source.lineStarts (· ≤ offset) := by
  have h : (0 :: lineStartsFrom 0 source.contents).Pairwise (· < ·) :=
    .cons (fun start hstart => lt_of_mem_lineStartsFrom hstart) (pairwise_lineStartsFrom 0 _)
  refine comesFirst_of_pairwise (h.imp fun hlt hle => ?_)
  rw [decide_eq_true_eq] at hle ⊢
  exact Nat.le_of_lt (Nat.lt_of_lt_of_le hlt hle)

theorem lineOf_eq_count (source : Source) (offset : Nat) :
    source.lineOf offset = (source.contents.take offset).count '\n' + 1 := by
  have hcount := countP_lineStartsFrom 0 offset source.contents
  rw [Nat.zero_add] at hcount
  rw [lineOf, partitionPoint_eq_countP (comesFirst_lineStarts source offset), lineStarts,
    List.countP_cons_of_pos (by simp), hcount]

end Source

end PatternLint
