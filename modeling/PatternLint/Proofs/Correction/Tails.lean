import PatternLint.Proofs.Correction.Outcome

/-! What blanking out tails leaves as it was. Tails stand apart, each behind a question mark and
before the end of a line. So no word borders on one, and keywords, names and declarators are where
they were. -/

namespace PatternLint

namespace OptionalInitialization

open Declaration

/-- Spans apart from one another, each a tail behind a question mark. -/
structure Tails (s : Text) (spans : List Span) : Prop where
  apart : Span.Apart spans
  reads : ∀ a ∈ spans, Reads s a.start a.stop
  sign : ∀ a ∈ spans, ∃ q, a.start = q + 1 ∧ s[q]? = some '?'

theorem tails_enabledSpans (context : Context) :
    Tails context.source.contents (enabledSpans context) where
  apart := apart_enabledSpans context
  reads _ := reads_of_mem_enabledSpans
  sign a ha := by
    obtain ⟨m, hm, rfl⟩ := exists_match_of_mem_enabledSpans ha
    obtain ⟨⟨c, q, h⟩, -⟩ := declares_of_mem_enabled hm
    exact ⟨q, h.span_start, h.sign.sign⟩

variable {s : Text} {spans : List Span} {i : Nat} {c : Char}

/-- A character that is not found in tails. -/
def isPlain (c : Char) : Bool := !isBlank c && !marks.contains c

/-- A character that is not found next to tails. -/
def isSolid (c : Char) : Bool := !isBlank c && c != '?'

theorem isPlain_iff : isPlain c = true ↔ isBlank c = false ∧ c ∉ marks := by
  simp [isPlain]

theorem isSolid_iff : isSolid c = true ↔ isBlank c = false ∧ c ≠ '?' := by
  simp [isSolid]

theorem getElem?_blanked_of_not_covered (h : ¬Covered spans i) :
    (blanked s spans)[i]? = s[i]? := by
  rw [getElem?_blanked, if_neg h]

theorem not_covered_of_getElem?_blanked (h : (blanked s spans)[i]? = some c)
    (hc : isBlank c = false) : ¬Covered spans i := by
  intro hi
  rw [getElem?_blanked, if_pos hi] at h
  obtain ⟨d, -, rfl⟩ := Option.map_eq_some_iff.1 h
  rw [isBlank_blankOut] at hc
  contradiction

namespace Tails

variable (h : Tails s spans)
include h

theorem not_covered_of_plain (hi : s[i]? = some c) (hc : isPlain c = true) :
    ¬Covered spans i := by
  intro hcov
  obtain ⟨hblank, hmarks⟩ := isPlain_iff.1 hc
  obtain ⟨a, ha, h1, h2⟩ := hcov
  obtain ⟨b, d, ht⟩ := h.reads a ha
  by_cases hmark : i = b ∨ d ≤ i ∧ i < d + 3
  · obtain ⟨c', hc', hm⟩ := ht.mark_at hmark
    obtain rfl : c = c' := Option.some.inj (hi.symm.trans hc')
    exact hmarks hm
  · have hb := ht.blank_at h1 h2 hmark
    rw [hi, Option.any_some, hblank] at hb
    contradiction

theorem getElem?_blanked_eq_some_iff (hc : isPlain c = true) :
    (blanked s spans)[i]? = some c ↔ s[i]? = some c := by
  refine ⟨?_, ?_⟩
  · intro hi
    have hclear := not_covered_of_getElem?_blanked hi (isPlain_iff.1 hc).1
    rwa [getElem?_blanked_of_not_covered hclear] at hi
  · intro hi
    rwa [getElem?_blanked_of_not_covered (h.not_covered_of_plain hi hc)]

/-- A tail ends before a blank or at the end. -/
theorem not_covered_before (hi : ¬Covered spans (i + 1)) (hc : s[i + 1]? = some c)
    (hb : isBlank c = false) : ¬Covered spans i := by
  intro hcov
  obtain ⟨a, ha, h1, h2⟩ := hcov
  obtain ⟨b, d, ht⟩ := h.reads a ha
  have hstop : a.stop = i + 1 := by
    rcases Nat.lt_or_ge (i + 1) a.stop with hlt | hge
    · exact absurd ⟨a, ha, by omega, hlt⟩ hi
    · omega
  have hend := ht.endsLine
  unfold EndsLine at hend
  rw [hstop, hc] at hend
  simp only [reduceCtorEq, Option.some.injEq, false_or] at hend
  rcases hend with rfl | ⟨rfl, -⟩
  · exact absurd hb (by decide)
  · exact absurd hb (by decide)

/-- A tail begins behind a question mark. -/
theorem not_covered_after (hi : ¬Covered spans i) (hc : s[i]? = some c) (hq : c ≠ '?') :
    ¬Covered spans (i + 1) := by
  intro hcov
  obtain ⟨a, ha, h1, h2⟩ := hcov
  obtain ⟨q, hstart, hsign⟩ := h.sign a ha
  rcases Nat.lt_or_ge i a.start with hlt | hge
  · obtain rfl : q = i := by omega
    exact hq (Option.some.inj (hc.symm.trans hsign))
  · exact hi ⟨a, ha, hge, by omega⟩

/-- The places of a word and those next to it are not covered, if those of its characters are
not. -/
theorem not_covered_beside {w : Text} (hw : s.HoldsAt i w) (hpos : 0 < w.length)
    (hsolid : w.all isSolid = true)
    (hword : ∀ x, i ≤ x → x < i + w.length → ¬Covered spans x) :
    ∀ x, i ≤ x + 1 → x ≤ i + w.length → ¬Covered spans x := by
  intro x h1 h2
  rcases (by omega : x + 1 = i ∨ i ≤ x ∧ x < i + w.length ∨ x = i + w.length) with rfl | hx | rfl
  · obtain ⟨c, hc, hs⟩ := hw.exists_mem (Nat.le_refl _) (by omega)
    have hc := isSolid_iff.1 (List.all_eq_true.1 hsolid c hc)
    exact h.not_covered_before (hword _ (Nat.le_refl _) (by omega)) hs hc.1
  · exact hword x hx.1 hx.2
  · have hlast : i + w.length = i + w.length - 1 + 1 := by omega
    obtain ⟨c, hc, hs⟩ := hw.exists_mem (x := i + w.length - 1) (by omega) (by omega)
    have hc := isSolid_iff.1 (List.all_eq_true.1 hsolid c hc)
    rw [hlast]
    exact h.not_covered_after (hword _ (by omega) (by omega)) hs hc.2

theorem not_covered_beside_plain {w : Text} (hw : s.HoldsAt i w) (hpos : 0 < w.length)
    (hsolid : w.all isSolid = true) (hplain : w.all isPlain = true) :
    ∀ x, i ≤ x + 1 → x ≤ i + w.length → ¬Covered spans x := by
  apply h.not_covered_beside hw hpos hsolid
  intro x h1 h2
  obtain ⟨c, hc, hx⟩ := hw.exists_mem h1 h2
  exact h.not_covered_of_plain hx (List.all_eq_true.1 hplain c hc)

theorem not_covered_beside_blanked {w : Text} (hw : (blanked s spans).HoldsAt i w)
    (hpos : 0 < w.length) (hsolid : w.all isSolid = true) :
    ∀ x, i ≤ x + 1 → x ≤ i + w.length → ¬Covered spans x := by
  have hword : ∀ x, i ≤ x → x < i + w.length → ¬Covered spans x := by
    intro x h1 h2
    obtain ⟨c, hc, hx⟩ := hw.exists_mem h1 h2
    have hc := isSolid_iff.1 (List.all_eq_true.1 hsolid c hc)
    exact not_covered_of_getElem?_blanked hx hc.1
  refine h.not_covered_beside (hw.congr fun x hx => ?_) hpos hsolid hword
  exact (getElem?_blanked_of_not_covered (hword _ (Nat.le_add_right i x) (by omega))).symm

theorem not_covered_beside_var (hw : s.HoldsAt i "var".toList) :
    ∀ x, i ≤ x + 1 → x ≤ i + 3 → ¬Covered spans x :=
  h.not_covered_beside_plain hw (by decide) (by decide) (by decide)

/-- The first letter of `let` also ends a `nil`, but what follows it here ends no line. -/
theorem not_covered_beside_let (hw : s.HoldsAt i "let".toList) :
    ∀ x, i ≤ x + 1 → x ≤ i + 3 → ¬Covered spans x := by
  have het : ∀ x, i + 1 ≤ x + 1 → x ≤ i + 1 + 2 → ¬Covered spans x :=
    h.not_covered_beside_plain (Text.holdsAt_cons.1 hw).2 (by decide) (by decide) (by decide)
  apply h.not_covered_beside hw (by decide) (by decide)
  intro x h1 h2
  have h2 : x < i + 3 := h2
  exact het x (by omega) (by omega)

theorem not_covered_of_declaratorAt (hd : DeclaratorAt s i) :
    ∀ x, i ≤ x → x ≤ i + 4 → ¬Covered spans x := by
  obtain ⟨-, hw | hw, -⟩ := hd
  · intro x h1 h2
    exact h.not_covered_beside_var hw x (by omega) (by omega)
  · intro x h1 h2
    exact h.not_covered_beside_let hw x (by omega) (by omega)

theorem not_covered_of_declaratorAt_blanked (hd : DeclaratorAt (blanked s spans) i) :
    ∀ x, i ≤ x → x ≤ i + 4 → ¬Covered spans x := by
  obtain ⟨-, hw, -⟩ := hd
  intro x h1 h2
  rcases hw with hw | hw
  · exact h.not_covered_beside_blanked hw (by decide) (by decide) x (by omega)
      (show x ≤ i + 1 + 3 by omega)
  · exact h.not_covered_beside_blanked hw (by decide) (by decide) x (by omega)
      (show x ≤ i + 1 + 3 by omega)

theorem declaratorAt_blanked_iff : DeclaratorAt (blanked s spans) i ↔ DeclaratorAt s i := by
  refine ⟨?_, ?_⟩
  · intro hd
    have hclear := h.not_covered_of_declaratorAt_blanked hd
    exact hd.congr fun x h1 h2 => (getElem?_blanked_of_not_covered (hclear x h1 h2)).symm
  · intro hd
    have hclear := h.not_covered_of_declaratorAt hd
    exact hd.congr fun x h1 h2 => getElem?_blanked_of_not_covered (hclear x h1 h2)

theorem unbroken_blanked_iff {j : Nat} : Unbroken (blanked s spans) i j ↔ Unbroken s i j := by
  unfold Unbroken
  simp only [h.declaratorAt_blanked_iff]

theorem keywordAt_blanked_iff : KeywordAt (blanked s spans) i ↔ KeywordAt s i := by
  refine ⟨?_, ?_⟩
  · intro hk
    have hclear := h.not_covered_beside_blanked hk.holds (by decide) (by decide)
    exact hk.congr fun x h1 h2 => (getElem?_blanked_of_not_covered (hclear x h1 h2)).symm
  · intro hk
    have hclear := h.not_covered_beside_var hk.holds
    exact hk.congr fun x h1 h2 => getElem?_blanked_of_not_covered (hclear x h1 h2)

theorem nameEndsAt_blanked_iff {p : Nat} : NameEndsAt (blanked s spans) p i ↔ NameEndsAt s p i := by
  have hcolon (x : Nat) : (blanked s spans)[x]? = some ':' ↔ s[x]? = some ':' :=
    h.getElem?_blanked_eq_some_iff (by decide)
  refine ⟨?_, ?_⟩
  · intro hr
    obtain ⟨hle, hc, hfirst, hu⟩ := hr
    exact ⟨hle, (hcolon i).1 hc, fun x h1 h2 hx => hfirst x h1 h2 ((hcolon x).2 hx),
      h.unbroken_blanked_iff.1 hu⟩
  · intro hr
    obtain ⟨hle, hc, hfirst, hu⟩ := hr
    exact ⟨hle, (hcolon i).2 hc, fun x h1 h2 hx => hfirst x h1 h2 ((hcolon x).1 hx),
      h.unbroken_blanked_iff.2 hu⟩

end Tails

end OptionalInitialization

end PatternLint
