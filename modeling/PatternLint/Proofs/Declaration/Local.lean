import PatternLint.Proofs.Declaration.Pattern

/-! What a declaration depends on: the characters of its extent, whether a word goes on into it,
and whether a line ends behind it. The characters that may stand in its parts are few, so no part
runs on over the sign that ends it. -/

namespace PatternLint.Declaration

variable {s t : Text} {a b c d e i p q x : Nat} {m : Match}

/-! The characters of an assignment of `nil` and of a declarator. -/

theorem Assigns.stop_le_length (h : Assigns s a b d e) : e ≤ s.length := by
  have hn : d + 3 ≤ s.length := h.holds_nil.length_le (List.cons_ne_nil _ _)
  apply Nat.le_of_not_lt
  intro hlt
  have hlast := h.after (e - 1) (by omega) (by omega)
  rw [List.getElem?_eq_none (by omega)] at hlast
  exact absurd hlast (by decide)

theorem Assigns.nil_chars (h : Assigns s a b d e) :
    s[d]? = some 'n' ∧ s[d + 1]? = some 'i' ∧ s[d + 2]? = some 'l' := by
  obtain ⟨hn, h⟩ := Text.holdsAt_cons.1 h.holds_nil
  obtain ⟨hi, h⟩ := Text.holdsAt_cons.1 h
  exact ⟨hn, hi, (Text.holdsAt_cons.1 h).1⟩

/-- The equals sign and `nil` are no blanks. -/
theorem Assigns.mark_at (h : Assigns s a b d e) (hi : i = b ∨ d ≤ i ∧ i < d + 3) :
    ∃ c, s[i]? = some c ∧ c ∈ marks := by
  obtain ⟨hn, hi', hl⟩ := h.nil_chars
  rcases hi with rfl | ⟨h1, h2⟩
  · exact ⟨_, h.equals, by decide⟩
  · rcases (by omega : i = d ∨ i = d + 1 ∨ i = d + 2) with rfl | rfl | rfl
    · exact ⟨_, hn, by decide⟩
    · exact ⟨_, hi', by decide⟩
    · exact ⟨_, hl, by decide⟩

/-- All else in a tail is blank. -/
theorem Assigns.blank_at (h : Assigns s a b d e) (h1 : a ≤ i) (h2 : i < e)
    (hi : ¬(i = b ∨ d ≤ i ∧ i < d + 3)) : s[i]?.any isBlank := by
  rcases Nat.lt_trichotomy i b with hlt | rfl | hlt
  · exact h.before i h1 hlt
  · exact absurd (.inl rfl) hi
  · rcases Nat.lt_or_ge i d with hlt' | hge
    · exact h.between i hlt hlt'
    · have hgap := h.after i (by omega) h2
      obtain ⟨c, hc, hg⟩ := (Option.any_eq_true _ _).1 hgap
      rw [hc]
      exact isBlank_of_isGap hg

/-- No other character stands in an assignment. -/
theorem Assigns.ne_of_lt {c : Char} (h : Assigns s a b d e) (h1 : a ≤ x) (h2 : x < e)
    (hblank : isBlank c = false) (hmark : c ∉ marks) : s[x]? ≠ some c := by
  intro hx
  by_cases hm : x = b ∨ d ≤ x ∧ x < d + 3
  · obtain ⟨c', hc', hm⟩ := h.mark_at hm
    obtain rfl : c = c' := Option.some.inj (hx.symm.trans hc')
    exact hmark hm
  · exact ne_of_any_isBlank (h.blank_at h1 h2 hm) hblank hx

/-- There is no question mark in a tail, nor right behind it. -/
theorem TailAt.ne_sign (h : TailAt s a b d e) (h1 : a ≤ x) (h2 : x ≤ e) : s[x]? ≠ some '?' := by
  intro hx
  rcases Nat.lt_or_eq_of_le h2 with hlt | rfl
  · exact h.ne_of_lt h1 hlt (by decide) (by decide) hx
  · have hend := h.endsLine
    unfold EndsLine at hend
    rw [hx] at hend
    simp at hend

theorem DeclaratorAt.ne_of_le {c : Char} (h : DeclaratorAt s i) (h1 : i ≤ x) (h2 : x ≤ i + 4)
    (hblank : isBlank c = false) (hword : c ∉ "varlet".toList) : s[x]? ≠ some c := by
  obtain ⟨hbefore, hw, hafter⟩ := h
  rcases (by omega : x = i ∨ i + 1 ≤ x ∧ x < i + 1 + 3 ∨ x = i + 4) with rfl | ⟨h3, h4⟩ | rfl
  · exact ne_of_any_isBlank hbefore hblank
  · have hletter : ∃ c ∈ "varlet".toList, s[x]? = some c := by
      rcases hw with hw | hw
      · obtain ⟨c, hc, hx⟩ := hw.exists_mem h3 h4
        exact ⟨c, List.mem_append_left "let".toList hc, hx⟩
      · obtain ⟨c, hc, hx⟩ := hw.exists_mem h3 h4
        exact ⟨c, List.mem_append_right "var".toList hc, hx⟩
    obtain ⟨c', hc', hx'⟩ := hletter
    intro hx
    obtain rfl : c = c' := Option.some.inj (hx.symm.trans hx')
    exact hword hc'
  · exact ne_of_any_isBlank hafter hblank

/-! Texts that agree on some places hold the same parts there. -/

/-- A declarator takes five places. -/
theorem DeclaratorAt.congr (h : DeclaratorAt s i) (ht : ∀ x, i ≤ x → x ≤ i + 4 → t[x]? = s[x]?) :
    DeclaratorAt t i := by
  obtain ⟨hbefore, hw, hafter⟩ := h
  have hword (x : Nat) (hx : x < 3) : t[i + 1 + x]? = s[i + 1 + x]? := ht _ (by omega) (by omega)
  refine ⟨?_, hw.imp (·.congr hword) (·.congr hword), ?_⟩
  · rwa [ht i (Nat.le_refl i) (by omega)]
  · rwa [ht (i + 4) (by omega) (Nat.le_refl _)]

/-- A keyword takes three places, and one on each side matters. -/
theorem KeywordAt.congr (h : KeywordAt s i) (ht : ∀ x, i ≤ x + 1 → x ≤ i + 3 → t[x]? = s[x]?) :
    KeywordAt t i := by
  have hword (x : Nat) (hx : x < 3) : t[i + x]? = s[i + x]? := ht _ (by omega) (by omega)
  refine ⟨h.holds.congr hword, ?_, ?_⟩
  · rw [ht (i - 1) (by omega) (by omega)]
    exact h.before
  · rw [ht (i + 3) (by omega) (Nat.le_refl _)]
    exact h.after

/-- A colon or a question mark stops every declarator that begins before it. -/
theorem Unbroken.congr {c : Char} (h : Unbroken s a b) (ht : ∀ x, a ≤ x → x ≤ b → t[x]? = s[x]?)
    (hb : s[b]? = some c) (hblank : isBlank c = false) (hword : c ∉ "varlet".toList) :
    Unbroken t a b := by
  intro x h1 h2 hd
  have hlt : x + 1 + 4 < b := by
    apply Nat.lt_of_not_le
    intro hle
    rw [← ht b (by omega) (Nat.le_refl b)] at hb
    exact hd.ne_of_le h2 hle hblank hword hb
  exact h x h1 h2 (hd.congr fun y h3 h4 => (ht y (by omega) (by omega)).symm)

theorem NameEndsAt.congr (h : NameEndsAt s p c) (ht : ∀ x, p ≤ x → x ≤ c → t[x]? = s[x]?) :
    NameEndsAt t p c := by
  have hle := h.le
  refine ⟨hle, ?_, fun x h1 h2 => ?_, ?_⟩
  · rw [ht c (by omega) (Nat.le_refl c)]
    exact h.colon
  · rw [ht x (by omega) (by omega)]
    exact h.first x h1 h2
  · exact h.unbroken.congr (fun x h1 h2 => ht x (by omega) h2) h.colon (by decide) (by decide)

theorem Assigns.congr (h : Assigns s a b d e) (ht : ∀ x, a ≤ x → x < e → t[x]? = s[x]?) :
    Assigns t a b d e := by
  have hle := h.le
  have hlt := h.lt
  have hnil := h.nil_le
  refine ⟨hle, hlt, hnil, fun x h1 h2 => ?_, ?_, fun x h1 h2 => ?_, ?_, fun x h1 h2 => ?_⟩
  · rw [ht x h1 (by omega)]
    exact h.before x h1 h2
  · rw [ht b hle (by omega)]
    exact h.equals
  · rw [ht x (by omega) (by omega)]
    exact h.between x h1 h2
  · apply h.holds_nil.congr
    intro x hx
    have hx : x < 3 := hx
    exact ht _ (by omega) (by omega)
  · rw [ht x (by omega) h2]
    exact h.after x h1 h2

/-- Behind a tail, two places matter. -/
theorem TailAt.congr (h : TailAt s a b d e) (ht : ∀ x, a ≤ x → x ≤ e + 1 → t[x]? = s[x]?) :
    TailAt t a b d e := by
  have hle := h.le
  have hlt := h.lt
  have hnil := h.nil_le
  refine ⟨h.toAssigns.congr fun x h1 h2 => ht x h1 (by omega), ?_, ?_⟩
  · rw [ht e (by omega) (by omega)]
    exact h.not_gap
  · unfold EndsLine
    rw [ht e (by omega) (by omega), ht (e + 1) (by omega) (by omega)]
    exact h.endsLine

/-- The tail behind an earlier question mark ends before the later one. -/
theorem SignAt.congr_of_lt (h : SignAt s (Reads s) c x e) (hx : x < q) (hq : s[q]? = some '?')
    (ht : ∀ y, c < y → y ≤ q → t[y]? = s[y]?) : SignAt t (Reads t) c x e := by
  obtain ⟨hlt, hsign, ⟨b, d, htail⟩, hu⟩ := h
  have he : e < q := by
    apply Nat.lt_of_not_le
    intro hle
    exact htail.ne_sign hx hle hq
  refine ⟨hlt, ?_, ⟨b, d, htail.congr fun y h1 h2 => ht y (by omega) (by omega)⟩, ?_⟩
  · rw [ht x hlt (by omega)]
    exact hsign
  · exact hu.congr (fun y h1 h2 => ht y (by omega) (by omega)) hsign (by decide) (by decide)

/-- A text that agrees on the extent of a declaration declares the same there, if no word goes on
into it and a line ends behind it. -/
theorem Declares.congr (h : Declares s (Reads s) p m)
    (ht : ∀ x, p ≤ x → x < m.extent.stop → t[x]? = s[x]?)
    (hbefore : p = 0 ∨ ¬t[p - 1]?.any isWord) (hend : EndsLine t m.extent.stop) :
    Declares t (Reads t) p m := by
  obtain ⟨c, q, h⟩ := h
  have hname := h.name.le
  have hsign := h.sign.lt
  have hstop := h.extent_stop
  obtain ⟨b, d, htail⟩ := h.sign.tail
  have hle := htail.le
  have hlt := htail.lt
  have hnil := htail.nil_le
  have hq : t[q]? = some '?' := (ht q (by omega) (by omega)).trans h.sign.sign
  refine ⟨c, q, ⟨?_, hbefore, ?_⟩, ?_, ⟨hsign, hq, ⟨b, d, ?_, ?_, ?_⟩, ?_⟩, fun x e hx => ?_,
    h.span_start, h.extent_start, hstop⟩
  · apply h.keyword.holds.congr
    intro x hx
    have hx : x < 3 := hx
    exact ht _ (by omega) (by omega)
  · rw [ht (p + 3) (by omega) (by omega)]
    exact h.keyword.after
  · exact h.name.congr fun x h1 h2 => ht x h1 (by omega)
  · exact htail.toAssigns.congr fun x h1 h2 => ht x (by omega) (by omega)
  · rw [← hstop]
    exact hend.not_gap
  · rwa [← hstop]
  · exact h.sign.unbroken.congr (fun x h1 h2 => ht x (by omega) (by omega)) h.sign.sign
      (by decide) (by decide)
  · apply Nat.le_of_not_lt
    intro hxq
    have hs := hx.congr_of_lt hxq hq fun y h1 h2 => (ht y (by omega) (by omega)).symm
    exact Nat.not_le.2 hxq (h.least x e hs)

end PatternLint.Declaration
