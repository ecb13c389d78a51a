import PatternLint.Proofs.Syntax.Edges

/-! The grammar of block comments, said by places of a text, and what the scan makes of it. Between
its two markers a block holds blocks and characters at which neither marker begins. The scan counts
open blocks instead. It passes every block, whatever is open around it; and where it comes to the
end of a block, the markers it has counted are those of the grammar. -/

namespace PatternLint.Syntax.Comment

/-- What a stretch of text may be. -/
inductive Part where
  | block
  /-- What may stand between the markers of a block. -/
  | inside

/-- The text from `i` up to `j` is such a part. -/
inductive Spells (s : Text) : Part → Nat → Nat → Prop where
  | block {i j : Nat} (opens : s.HoldsAt i "/*".toList) (inside : Spells s .inside (i + 2) j)
      (closes : s.HoldsAt j "*/".toList) : Spells s .block i (j + 2)
  | done {i : Nat} : Spells s .inside i i
  | nested {i j k : Nat} (block : Spells s .block i j) (rest : Spells s .inside j k) :
      Spells s .inside i k
  | char {i j : Nat} (inText : i < s.length) (notOpen : ¬s.HoldsAt i "/*".toList)
      (notClose : ¬s.HoldsAt i "*/".toList) (rest : Spells s .inside (i + 1) j) :
      Spells s .inside i j

section
variable {s : Text} {i : Nat}

/-! The scan at a place of the text: a marker, another character, or the end. -/

theorem afterBlock_drop_open (h : s.HoldsAt i "/*".toList) (n : Nat) :
    afterBlock n (s.drop i) = afterBlock (n + 1) (s.drop (i + 2)) := by
  have hdrop : '/' :: '*' :: s.drop (i + 2) = s.drop i := h.append_drop
  rw [← hdrop, afterBlock]

theorem afterBlock_drop_last (h : s.HoldsAt i "*/".toList) :
    afterBlock 0 (s.drop i) = s.drop (i + 2) := by
  have hdrop : '*' :: '/' :: s.drop (i + 2) = s.drop i := h.append_drop
  rw [← hdrop, afterBlock]

theorem afterBlock_drop_close (h : s.HoldsAt i "*/".toList) (n : Nat) :
    afterBlock (n + 1) (s.drop i) = afterBlock n (s.drop (i + 2)) := by
  have hdrop : '*' :: '/' :: s.drop (i + 2) = s.drop i := h.append_drop
  rw [← hdrop, afterBlock]

theorem afterBlock_drop_char (hi : i < s.length) (hopen : ¬s.HoldsAt i "/*".toList)
    (hclose : ¬s.HoldsAt i "*/".toList) (n : Nat) :
    afterBlock n (s.drop i) = afterBlock n (s.drop (i + 1)) := by
  have hdrop := List.drop_eq_getElem_cons hi
  rw [hdrop]
  apply afterBlock.eq_5
  · intro t hc ht
    exact hopen ⟨t, by rw [hdrop, hc, ht]; rfl⟩
  · intro t hc ht
    exact hclose ⟨t, by rw [hdrop, hc, ht]; rfl⟩

theorem afterBlock_drop_end (h : s.length ≤ i) (n : Nat) : afterBlock n (s.drop i) = [] := by
  rw [List.drop_eq_nil_of_le h, afterBlock]

end

section
variable {s : Text} {part : Part} {i i' j k n : Nat}

/-- The scan gets from one end of a part to the other, however many blocks are open around it. -/
theorem Spells.passed (h : Spells s part i j) (n : Nat) :
    afterBlock n (s.drop i) = afterBlock n (s.drop j) := by
  induction h generalizing n with
  | block opens inside closes ih =>
    rw [afterBlock_drop_open opens, ih, afterBlock_drop_close closes]
  | done => rfl
  | nested block rest ihblock ih => rw [ihblock, ih]
  | char inText notOpen notClose rest ih => rw [afterBlock_drop_char inText notOpen notClose, ih]

/-- The scan of a block ends right behind it. -/
theorem Spells.afterBlock_eq (h : Spells s .block i j) :
    j ≤ s.length ∧ afterBlock 0 (s.drop (i + 2)) = s.drop j := by
  cases h with
  | block opens inside closes =>
    refine ⟨closes.length_le (by decide), ?_⟩
    rw [inside.passed, afterBlock_drop_last closes]

/-- From `i` up to `j` the text closes a block and `n` more around it. -/
def Closes (s : Text) : Nat → Nat → Nat → Prop
  | 0, i, j => ∃ k, Spells s .inside i k ∧ s.HoldsAt k "*/".toList ∧ j = k + 2
  | n + 1, i, j => ∃ k, Spells s .inside i k ∧ s.HoldsAt k "*/".toList ∧ Closes s n (k + 2) j

theorem Closes.mono (hinside : ∀ k, Spells s .inside i' k → Spells s .inside i k)
    (h : Closes s n i' j) : Closes s n i j := by
  cases n with
  | zero =>
    obtain ⟨k, hk, hj⟩ := h
    exact ⟨k, hinside k hk, hj⟩
  | succ n =>
    obtain ⟨k, hk, hrest⟩ := h
    exact ⟨k, hinside k hk, hrest⟩

/-- Wherever it begins, the scan runs out of text or has closed what is open by the grammar. -/
theorem afterBlock_eq_nil_or_closes (s : Text) (n i : Nat) :
    afterBlock n (s.drop i) = [] ∨ ∃ j, Closes s n i j ∧ afterBlock n (s.drop i) = s.drop j := by
  induction hleft : s.length - i using Nat.strongRecOn generalizing n i with
  | ind left ih =>
    rcases Nat.lt_or_ge i s.length with hi | hend
    · by_cases hopen : s.HoldsAt i "/*".toList
      · rw [afterBlock_drop_open hopen]
        rcases ih _ (by omega) (n + 1) (i + 2) rfl with hnil | ⟨j, hcloses, hj⟩
        · exact .inl hnil
        · -- the first block to be closed is the one that opens here
          obtain ⟨k, hinside, hclose, hrest⟩ := hcloses
          exact .inr ⟨j, hrest.mono fun _ => .nested (.block hopen hinside hclose), hj⟩
      · by_cases hclose : s.HoldsAt i "*/".toList
        · cases n with
          | zero => exact .inr ⟨i + 2, ⟨i, .done, hclose, rfl⟩, afterBlock_drop_last hclose⟩
          | succ n =>
            rw [afterBlock_drop_close hclose]
            rcases ih _ (by omega) n (i + 2) rfl with hnil | ⟨j, hcloses, hj⟩
            · exact .inl hnil
            · exact .inr ⟨j, ⟨i, .done, hclose, hcloses⟩, hj⟩
        · rw [afterBlock_drop_char hi hopen hclose]
          rcases ih _ (by omega) n (i + 1) rfl with hnil | ⟨j, hcloses, hj⟩
          · exact .inl hnil
          · exact .inr ⟨j, hcloses.mono fun _ => .char hi hopen hclose, hj⟩
    · exact .inl (afterBlock_drop_end hend n)

theorem afterBlock_eq_nil (hopen : s.HoldsAt i "/*".toList) (h : ∀ j, ¬Spells s .block i j) :
    afterBlock 0 (s.drop (i + 2)) = [] := by
  rcases afterBlock_eq_nil_or_closes s 0 (i + 2) with hnil | ⟨j, hcloses, -⟩
  · exact hnil
  · obtain ⟨k, hinside, hclose, -⟩ := hcloses
    exact absurd (.block hopen hinside hclose) (h (k + 2))

/-- The item that is listed for a block marker ends where the scan ends. -/
theorem itemsFrom_of_open (hopen : s.HoldsAt i "/*".toList) (hij : i ≤ j) (hj : j ≤ s.length)
    (h : afterBlock 0 (s.drop (i + 2)) = s.drop j) :
    itemsFrom i (s.drop i) = ⟨.comment, ⟨i, j, hij⟩⟩ :: itemsFrom j (s.drop j) := by
  have hdrop : '/' :: '*' :: s.drop (i + 2) = s.drop i := hopen.append_drop
  have hitem : item? ('/' :: '*' :: s.drop (i + 2)) = some (.comment, s.drop j) := by
    rw [item?, h]
  have hstop : i + (('/' :: '*' :: s.drop (i + 2)).length - (s.drop j).length) = j := by
    rw [hdrop, List.length_drop, List.length_drop]
    omega
  rw [← hdrop, itemsFrom_of_some hitem]
  simp only [hstop]

/-- A block has one end only. -/
theorem Spells.unique (h : Spells s .block i j) (h' : Spells s .block i k) : j = k := by
  obtain ⟨hj, hscan⟩ := h.afterBlock_eq
  obtain ⟨hk, hscan'⟩ := h'.afterBlock_eq
  have hlength := congrArg List.length (hscan.symm.trans hscan')
  rw [List.length_drop, List.length_drop] at hlength
  omega

/-- Where a block marker stands, either exactly one block begins, and the scan and the item that is
listed end where it ends; or none does, and both end with the text. -/
theorem afterBlock_by_grammar (hopen : s.HoldsAt i "/*".toList) :
    ∃ (stop : Nat) (hle : i ≤ stop), stop ≤ s.length ∧
      afterBlock 0 (s.drop (i + 2)) = s.drop stop ∧
      itemsFrom i (s.drop i) = ⟨.comment, ⟨i, stop, hle⟩⟩ :: itemsFrom stop (s.drop stop) ∧
      ((∀ j, Spells s .block i j ↔ j = stop) ∨
        (∀ j, ¬Spells s .block i j) ∧ stop = s.length) := by
  have hinside : i + 2 ≤ s.length := hopen.length_le (by decide)
  by_cases hblock : ∃ stop, Spells s .block i stop
  · obtain ⟨stop, hstop⟩ := hblock
    obtain ⟨hlength, hscan⟩ := hstop.afterBlock_eq
    have hle : i ≤ stop := by
      have hshort := length_afterBlock_le 0 (s.drop (i + 2))
      rw [hscan, List.length_drop, List.length_drop] at hshort
      omega
    refine ⟨stop, hle, hlength, hscan, itemsFrom_of_open hopen hle hlength hscan, .inl fun j => ?_⟩
    constructor
    · intro hj
      exact hj.unique hstop
    · intro hj
      exact hj ▸ hstop
  · have hnone : ∀ j, ¬Spells s .block i j := fun j hj => hblock ⟨j, hj⟩
    have hle : i ≤ s.length := by omega
    have hscan : afterBlock 0 (s.drop (i + 2)) = s.drop s.length := by
      rw [afterBlock_eq_nil hopen hnone, List.drop_length]
    exact ⟨s.length, hle, Nat.le_refl _, hscan, itemsFrom_of_open hopen hle (Nat.le_refl _) hscan,
      .inr ⟨hnone, rfl⟩⟩

/-- Markers that overlap are taken from the left: the slash of a closing marker opens nothing, and
that of an opening one closes nothing. -/
theorem afterBlock_of_overlapping_markers :
    let s : Text := "x /*/ a /**/*/* b".toList
    s.HoldsAt 2 "/*".toList ∧ Spells s .block 2 14 ∧ afterBlock 0 (s.drop 4) = s.drop 14 := by
  intro s
  have hopen : s.HoldsAt 2 "/*".toList := by decide
  have hinner : Spells s .block 8 12 := .block (by decide) .done (by decide)
  have hblock : Spells s .block 2 14 :=
    .block hopen
      (.char (by decide) (by decide) (by decide) (.char (by decide) (by decide) (by decide)
        (.char (by decide) (by decide) (by decide) (.char (by decide) (by decide) (by decide)
          (.nested hinner .done)))))
      (by decide)
  obtain ⟨stop, -, -, hscan, -, hends | hends⟩ := afterBlock_by_grammar hopen
  · obtain rfl := (hends 14).1 hblock
    exact ⟨hopen, hblock, hscan⟩
  · exact absurd hblock (hends.1 14)

end

end PatternLint.Syntax.Comment
