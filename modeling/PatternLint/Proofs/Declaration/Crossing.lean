import PatternLint.Proofs.Declaration.Local
import PatternLint.Proofs.Declaration.Walk
import PatternLint.Syntax.Classify

/-! Declarators inside a match. Each character of the name and of the type is guarded against a
declarator right behind it; the keyword and the colon are not. So a match runs on over a declarator
that stands directly behind one of these two, and over no other. -/

namespace PatternLint.Declaration

/-- Another declarator stands at `i`, in the extent of a match behind its keyword. -/
structure CrossesAt (s : Text) (m : Match) (i : Nat) : Prop where
  le : m.extent.start + 3 ≤ i
  stop_le : i + 5 ≤ m.extent.stop
  declarator : DeclaratorAt s i

variable {s : Text} {a b c d e i p q : Nat} {m : Match}

/-- The second letter of a declarator's word is in no assignment of `nil`. -/
theorem Assigns.not_declaratorAt (h : Assigns s a b d e) (h1 : a ≤ i) (h2 : i + 5 ≤ e) :
    ¬DeclaratorAt s i := by
  rintro ⟨-, hw | hw, -⟩
  · have hletter := (Text.holdsAt_cons.1 (Text.holdsAt_cons.1 hw).2).1
    exact h.ne_of_lt (by omega) (by omega) (by decide) (by decide) hletter
  · have hletter := (Text.holdsAt_cons.1 (Text.holdsAt_cons.1 hw).2).1
    exact h.ne_of_lt (by omega) (by omega) (by decide) (by decide) hletter

theorem Form.crossesAt_iff (h : Form s (Reads s) p c q m) :
    CrossesAt s m i ↔ DeclaratorAt s i ∧ (i = p + 3 ∨ i = c + 1) := by
  have hname := h.name.le
  have hsign := h.sign.lt
  have hstart := h.extent_start
  have hstop := h.extent_stop
  have hle := h.sign.tail.le
  refine ⟨?_, ?_⟩
  · rintro ⟨h1, h2, hd⟩
    refine ⟨hd, ?_⟩
    have hsucc : i - 1 + 1 = i := by omega
    rcases (by omega : i = p + 3 ∨ p + 3 < i ∧ i ≤ c ∨ i = c + 1 ∨ c + 1 < i ∧ i ≤ q ∨ q < i)
      with hi | ⟨h3, h4⟩ | hi | ⟨h3, h4⟩ | hq
    · exact .inl hi
    · exact absurd (hsucc ▸ hd) (h.name.unbroken (i - 1) (by omega) (by omega))
    · exact .inr hi
    · exact absurd (hsucc ▸ hd) (h.sign.unbroken (i - 1) (by omega) (by omega))
    · obtain ⟨b, d, htail⟩ := h.sign.tail
      exact absurd hd (htail.not_declaratorAt hq (by omega))
  · rintro ⟨hd, hi⟩
    have hcolon : ¬(i ≤ c ∧ c ≤ i + 4) := fun hc =>
      hd.ne_of_le hc.1 hc.2 (by decide) (by decide) h.name.colon
    have hmark : ¬(i ≤ q ∧ q ≤ i + 4) := fun hq =>
      hd.ne_of_le hq.1 hq.2 (by decide) (by decide) h.sign.sign
    exact ⟨by omega, by omega, hd⟩

theorem mem_find_crosses_iff (s : Text) (excluded : Syntax.ExcludedSet) (m : Match) (i : Nat) :
    m ∈ find s excluded ∧ CrossesAt s m i ↔ m ∈ find s excluded ∧ DeclaratorAt s i ∧
      (i = m.extent.start + 3 ∨ ∃ c, NameEndsAt s m.extent.start c ∧ i = c + 1) := by
  apply and_congr_right
  intro hm
  obtain ⟨p, ⟨c, q, h⟩, -⟩ := (walk_find s excluded).of_mem hm
  obtain rfl := h.extent_start
  have hcolon : (∃ c, NameEndsAt s m.extent.start c ∧ i = c + 1) ↔ i = c + 1 := by
    refine ⟨?_, fun hi => ⟨c, h.name, hi⟩⟩
    rintro ⟨c', hc', rfl⟩
    rw [hc'.unique h.name]
  rw [h.crossesAt_iff, hcolon]

/-- The declarators that a match crosses are those directly behind its keyword and directly behind
the colon. So no match crosses one exactly when none has a declarator at these two places. -/
theorem find_uncrossed_iff (s : Text) (excluded : Syntax.ExcludedSet) :
    (∀ m i, m ∈ find s excluded ∧ CrossesAt s m i ↔ m ∈ find s excluded ∧ DeclaratorAt s i ∧
      (i = m.extent.start + 3 ∨ ∃ c, NameEndsAt s m.extent.start c ∧ i = c + 1)) ∧
    ((∀ m ∈ find s excluded, ∀ i, ¬CrossesAt s m i) ↔
      ∀ m ∈ find s excluded, ¬DeclaratorAt s (m.extent.start + 3) ∧
        ∀ c, NameEndsAt s m.extent.start c → ¬DeclaratorAt s (c + 1)) := by
  refine ⟨mem_find_crosses_iff s excluded, ?_, ?_⟩
  · intro h m hm
    refine ⟨fun hd => ?_, fun c hc hd => ?_⟩
    · exact h m hm _ ((mem_find_crosses_iff s excluded m _).2 ⟨hm, hd, .inl rfl⟩).2
    · exact h m hm _ ((mem_find_crosses_iff s excluded m _).2 ⟨hm, hd, .inr ⟨c, hc, rfl⟩⟩).2
  · intro h m hm i hcross
    obtain ⟨-, hd, rfl | ⟨c, hc, rfl⟩⟩ := (mem_find_crosses_iff s excluded m i).1 ⟨hm, hcross⟩
    · exact (h m hm).1 hd
    · exact (h m hm).2 c hc hd

/-- The tail of a `let` is found for the `var` before it. -/
theorem find_crosses_let :
    let s := "case var n: let m: Int? = nil".toList
    let m : Match := ⟨⟨23, 29, by decide⟩, ⟨5, 29, by decide⟩⟩
    find s (Syntax.classify s) = [m] ∧ CrossesAt s m 11 := by
  intro s m
  refine ⟨by decide +kernel, by decide, by decide, ?_⟩
  unfold DeclaratorAt
  decide

end PatternLint.Declaration
