import PatternLint.Proofs.Correction.Batch
import PatternLint.Proofs.Matching

/-! When a list of spans is rewritten, what comes of it, and what it is refused for. A piece comes
from the first occurrence of the pattern in the text of its span, taken by itself. The pass over the
spans in order refuses exactly the lists in which two spans intersect, and every refusal names a
fault that is there; which fault it names does not depend on the order of the list. A failure that
is no refusal is the library's, where it reads the pattern, or the template for the first span. -/

namespace PatternLint

namespace Rewrite

variable {dialect : Dialect} {rw : Rewrite} {compiled : Compiled} {expand : Expansion}
  {s t text r : Text} {cursor offset : Nat} {a : Span} {spans spans' sorted rest : List Span}
  {e : CorrectionError} {f : Failure}

/-- The leftmost match of a pattern in a text. -/
structure First (matcher : Matcher) (text : Text) (found : Found) : Prop where
  inside : found.extent.start ≤ text.length
  here : matcher.matchAt text found.extent.start = some found
  before : ∀ i < found.extent.start, matcher.matchAt text i = none

/-- The pattern occurs in the text; with its first occurrence replaced the text is `r`, which is as
long. -/
structure Exchanges (matcher : Matcher) (expand : Expansion) (text r : Text) : Prop where
  first : ∃ found, First matcher text found ∧ r = exchanged expand text found
  length : r.length = text.length

theorem search_eq_some_iff_first {matcher : Matcher} {found : Found} :
    matcher.search text 0 = some found ↔ First matcher text found := by
  rw [matcher.search_eq_some_iff (Nat.zero_le _)]
  exact ⟨fun ⟨_, h1, h2, h3⟩ => ⟨h1, h2, fun i => h3 i (Nat.zero_le i)⟩,
    fun h => ⟨Nat.zero_le _, h.inside, h.here, fun i _ => h.before i⟩⟩

/-! One span. -/

theorem piece_eq_ok_iff : rw.piece compiled offset text = .ok r ↔
    ∃ expand, rw.expansion compiled = .ok expand ∧ Exchanges compiled.matcher expand text r := by
  cases hexpand : rw.expansion compiled with
  | error f => simp [piece_of_unread hexpand]
  | ok expand =>
    rw [piece_of_read hexpand]
    simp only [Except.ok.injEq, exists_eq_left']
    cases hsearch : compiled.matcher.search text 0 with
    | none =>
      simp only [reduceCtorEq, false_iff]
      rintro ⟨⟨found, hfound, -⟩, -⟩
      rw [search_eq_some_iff_first.2 hfound] at hsearch
      cases hsearch
    | some found =>
      have hfirst := search_eq_some_iff_first.1 hsearch
      constructor
      · intro h
        dsimp only at h
        split at h
        · rename_i hlength
          obtain rfl := Except.ok.inj h
          exact ⟨⟨found, hfirst, rfl⟩, hlength⟩
        · cases h
      · rintro ⟨⟨found', hfound', rfl⟩, hlength⟩
        rw [search_eq_some_iff_first.2 hfound'] at hsearch
        obtain rfl := Option.some.inj hsearch
        exact if_pos hlength

theorem mapError_eq_ok_iff {α ε ε' : Type} {x : Except ε α} {f : ε → ε'} {a : α} :
    x.mapError f = .ok a ↔ x = .ok a := by
  cases x with
  | error e => exact iff_of_false nofun nofun
  | ok b => exact ⟨fun h => congrArg _ (Except.ok.inj h), fun h => congrArg _ (Except.ok.inj h)⟩

theorem compile_eq_ok_iff :
    rw.compile dialect = .ok compiled ↔ dialect.compile rw.flags rw.pattern = .ok compiled :=
  mapError_eq_ok_iff

theorem expansion_eq_ok_iff :
    rw.expansion compiled = .ok expand ↔ compiled.template rw.replacement = .ok expand :=
  mapError_eq_ok_iff

theorem rewritable_iff : rw.Rewritable compiled s a ↔ a.stop ≤ s.length ∧ ∃ expand,
    rw.expansion compiled = .ok expand ∧
      ∃ r, Exchanges compiled.matcher expand (s.slice a.start a.stop) r := by
  unfold Rewritable
  simp only [piece_eq_ok_iff]
  constructor
  · rintro ⟨hstop, r, expand, hexpand, hr⟩
    exact ⟨hstop, expand, hexpand, r, hr⟩
  · rintro ⟨hstop, expand, hexpand, r, hr⟩
    exact ⟨hstop, r, expand, hexpand, hr⟩

/-- The result holds at each span what its text is rewritten to. -/
theorem Replaces.slice_eq (h : Replaces s (rw.rewritten compiled s) spans t) (ha : a ∈ spans)
    (hrewritable : rw.Rewritable compiled s a) :
    t.slice a.start a.stop = rw.rewritten compiled s a := by
  have hlength := hrewritable.length_rewritten
  apply List.ext_getElem?
  intro i
  rw [Text.getElem?_slice]
  by_cases hi : a.start + i < a.stop
  · rw [if_pos (by omega), h.inside a ha (a.start + i) (by omega) hi, Nat.add_sub_cancel_left]
  · rw [if_neg (by omega), List.getElem?_eq_none (by omega)]

/-! Success. -/

theorem exists_apply_iff : (∃ t, rw.apply dialect s spans = .ok t) ↔
    ∃ compiled, rw.compile dialect = .ok compiled ∧ Span.Separate spans ∧
      ∀ a ∈ spans, rw.Rewritable compiled s a := by
  constructor
  · rintro ⟨t, ht⟩
    exact rewritable_of_apply ht
  · rintro ⟨compiled, hcompile, hseparate, hspans⟩
    obtain ⟨t, ht, -⟩ := apply_of_rewritable hcompile hseparate hspans
    exact ⟨t, ht⟩

/-- There is one template for all spans, so it can be asked for first. -/
theorem forall_rewritable_iff (hne : spans ≠ []) : (∀ a ∈ spans, rw.Rewritable compiled s a) ↔
    ∃ expand, rw.expansion compiled = .ok expand ∧ (∀ a ∈ spans, a.stop ≤ s.length) ∧
      ∀ a ∈ spans, ∃ r, Exchanges compiled.matcher expand (s.slice a.start a.stop) r := by
  constructor
  · intro h
    obtain ⟨a, ha⟩ := List.exists_mem_of_ne_nil spans hne
    obtain ⟨-, expand, hexpand, -⟩ := rewritable_iff.1 (h a ha)
    refine ⟨expand, hexpand, fun b hb => (h b hb).1, fun b hb => ?_⟩
    obtain ⟨-, expand', hexpand', hr⟩ := rewritable_iff.1 (h b hb)
    rw [hexpand] at hexpand'
    exact Except.ok.inj hexpand' ▸ hr
  · rintro ⟨expand, hexpand, hstop, hr⟩ a ha
    exact rewritable_iff.2 ⟨hstop a ha, expand, hexpand, hr a ha⟩

theorem exchanges_of_apply (h : rw.apply dialect s spans = .ok t) (ha : a ∈ spans) :
    ∃ compiled expand, rw.compile dialect = .ok compiled ∧ rw.expansion compiled = .ok expand ∧
      Exchanges compiled.matcher expand (s.slice a.start a.stop) (t.slice a.start a.stop) := by
  obtain ⟨compiled, hcompile, -, hspans, hreplaces⟩ := apply_eq_ok_iff.1 h
  obtain ⟨expand, hexpand, hr⟩ := piece_eq_ok_iff.1 (hspans a ha).piece_eq
  rw [hreplaces.slice_eq ha (hspans a ha)]
  exact ⟨compiled, expand, hcompile, hexpand, hr⟩

/-! Refusals. -/

theorem mapError_ofFault_eq_refused {α : Type} {x : Except Fault α}
    {refusal : String → CorrectionError}
    (h : x.mapError (Failure.ofFault refusal) = .error (.refused e)) :
    ∃ detail, x = .error (.invalid detail) ∧ e = refusal detail := by
  cases x with
  | ok a => cases h
  | error fault =>
    cases fault with
    | invalid detail => exact ⟨detail, rfl, (Failure.refused.inj (Except.error.inj h)).symm⟩
    | unforeseen e => cases h

theorem mapError_ofFault_eq_unforeseen_iff {α : Type} {x : Except Fault α}
    {refusal : String → CorrectionError} {e : Unforeseen} :
    x.mapError (Failure.ofFault refusal) = .error (.unforeseen e) ↔
      x = .error (.unforeseen e) := by
  cases x with
  | ok a => exact iff_of_false nofun nofun
  | error fault =>
    cases fault with
    | invalid detail => exact iff_of_false nofun nofun
    | unforeseen e' =>
      constructor
      · intro h
        rw [Failure.unforeseen.inj (Except.error.inj h)]
      · rintro ⟨⟩
        rfl

/-- The error names a fault that the rewrite or the list of spans has. -/
inductive Grounds (dialect : Dialect) (rw : Rewrite) (s : Text) (spans : List Span) :
    CorrectionError → Prop
  | badPattern {detail : String}
      (invalid : dialect.compile rw.flags rw.pattern = .error (.invalid detail)) :
      Grounds dialect rw s spans (.badPattern rw.pattern detail)
  | badReplacement {compiled : Compiled} {detail : String}
      (read : rw.compile dialect = .ok compiled) (used : spans ≠ [])
      (invalid : compiled.template rw.replacement = .error (.invalid detail)) :
      Grounds dialect rw s spans (.badReplacement rw.replacement detail)
  /-- Two entries of the list intersect, and the second starts there. -/
  | overlapping {a b : Span} {others : List Span} (entries : spans.Perm (a :: b :: others))
      (intersect : a.intersects b = true) :
      Grounds dialect rw s spans (.overlapping b.start)
  | outsideBuffer {a : Span} (entry : a ∈ spans) (outside : s.length < a.stop) :
      Grounds dialect rw s spans (.outsideBuffer a s.length)
  | noOccurrence {compiled : Compiled} {a : Span} (read : rw.compile dialect = .ok compiled)
      (entry : a ∈ spans)
      (nowhere : ∀ i ≤ (s.slice a.start a.stop).length,
        compiled.matcher.matchAt (s.slice a.start a.stop) i = none) :
      Grounds dialect rw s spans (.noOccurrence a.start (s.slice a.start a.stop))
  | lengthChange {compiled : Compiled} {expand : Expansion} {a : Span} {found : Found}
      (read : rw.compile dialect = .ok compiled)
      (template_read : rw.expansion compiled = .ok expand)
      (entry : a ∈ spans) (first : First compiled.matcher (s.slice a.start a.stop) found)
      (changed : (exchanged expand (s.slice a.start a.stop) found).length ≠ a.length) :
      Grounds dialect rw s spans (.lengthChange a.start a.length
        (exchanged expand (s.slice a.start a.stop) found).length)

theorem grounds_of_compile (h : rw.compile dialect = .error (.refused e)) :
    Grounds dialect rw s spans e := by
  obtain ⟨detail, hinvalid, rfl⟩ := mapError_ofFault_eq_refused h
  exact .badPattern hinvalid

theorem grounds_of_piece (hcompile : rw.compile dialect = .ok compiled) (ha : a ∈ spans)
    (hstop : a.stop ≤ s.length)
    (h : rw.piece compiled a.start (s.slice a.start a.stop) = .error (.refused e)) :
    Grounds dialect rw s spans e := by
  cases hexpand : rw.expansion compiled with
  | error f =>
    rw [piece_of_unread hexpand] at h
    obtain rfl := Except.error.inj h
    obtain ⟨detail, hinvalid, rfl⟩ := mapError_ofFault_eq_refused hexpand
    exact .badReplacement hcompile (List.ne_nil_of_mem ha) hinvalid
  | ok expand =>
    rw [piece_of_read hexpand] at h
    have hlength : (s.slice a.start a.stop).length = a.length := Text.length_slice hstop
    cases hsearch : compiled.matcher.search (s.slice a.start a.stop) 0 with
    | none =>
      rw [hsearch] at h
      obtain rfl := Failure.refused.inj (Except.error.inj h)
      have hnowhere := (Matcher.search_eq_none_iff (Nat.zero_le _)).1 hsearch
      exact .noOccurrence hcompile ha fun i => hnowhere i (Nat.zero_le i)
    | some found =>
      rw [hsearch, hlength] at h
      dsimp only at h
      split at h
      · cases h
      · rename_i hchanged
        obtain rfl := Failure.refused.inj (Except.error.inj h)
        exact .lengthChange hcompile hexpand ha (search_eq_some_iff_first.1 hsearch) hchanged

/-- The first fault of the pass is one of the list: of the spans before the cursor only the last
matters, and it stands next to the first of those that follow. -/
theorem grounds_of_onward (hcompile : rw.compile dialect = .ok compiled) (hperm : sorted.Perm spans)
    (hsorted : sorted.Pairwise fun a b => a.sortsBefore b) (hrest : rest <:+ sorted)
    (hhead : ∀ a ∈ rest.head?, a.start < cursor →
      Grounds dialect rw s spans (.overlapping a.start))
    (h : rw.onward compiled s cursor rest = .error (.refused e)) :
    Grounds dialect rw s spans e := by
  induction rest generalizing cursor with
  | nil => cases h
  | cons a rest ih =>
    have ha : a ∈ spans := hperm.mem_iff.1 (hrest.subset List.mem_cons_self)
    rw [onward_cons] at h
    split at h
    · rename_i hcursor
      obtain rfl := Failure.refused.inj (Except.error.inj h)
      exact hhead a rfl hcursor
    · split at h
      · rename_i hstop
        obtain rfl := Failure.refused.inj (Except.error.inj h)
        exact .outsideBuffer ha hstop
      · rename_i hstop
        split at h
        · rename_i hpiece
          exact grounds_of_piece hcompile ha (Nat.le_of_not_lt hstop) (hpiece.trans h)
        · split at h
          · rename_i htail
            refine ih ((List.suffix_cons a rest).trans hrest) (fun b hb hlt => ?_) (htail.trans h)
            obtain ⟨more, rfl⟩ := List.head?_eq_some_iff.1 hb
            obtain ⟨earlier, rfl⟩ := hrest
            have hab : a.sortsBefore b :=
              (List.pairwise_cons.1 (List.pairwise_append.1 hsorted).2.1).1 b List.mem_cons_self
            have hentries : (earlier ++ a :: b :: more).Perm (a :: b :: (earlier ++ more)) :=
              List.perm_middle.trans (List.perm_middle.cons a)
            refine .overlapping (hperm.symm.trans hentries) ?_
            have := b.start_le_stop
            rw [Span.sortsBefore_iff] at hab
            rw [Span.intersects_iff]
            omega
          · cases h

theorem grounds_of_apply (h : rw.apply dialect s spans = .error (.refused e)) :
    Grounds dialect rw s spans e := by
  cases hcompile : rw.compile dialect with
  | error f =>
    rw [apply_of_unread hcompile] at h
    obtain rfl := Except.error.inj h
    exact grounds_of_compile hcompile
  | ok compiled =>
    rw [apply_of_read hcompile] at h
    refine grounds_of_onward hcompile (List.mergeSort_perm spans _) (Span.pairwise_mergeSort spans)
      (List.suffix_refl _) (fun a _ hlt => ?_) h
    exact absurd hlt (Nat.not_lt_zero _)

/-! Failures of the library. -/

/-- The library fails where the rewrite has it read the pattern, or the template: that is read for
the first of the spans, if it lies in the text. -/
inductive Fails (dialect : Dialect) (rw : Rewrite) (s : Text) (spans : List Span)
    (e : Unforeseen) : Prop
  | pattern (failed : dialect.compile rw.flags rw.pattern = .error (.unforeseen e))
  | template {compiled : Compiled} {a : Span}
      (read : dialect.compile rw.flags rw.pattern = .ok compiled) (entry : a ∈ spans)
      (first : ∀ b ∈ spans, a.sortsBefore b) (within : a.stop ≤ s.length)
      (failed : compiled.template rw.replacement = .error (.unforeseen e))

theorem onward_eq_unforeseen_iff {e : Unforeseen}
    (hexpand : rw.expansion compiled = .error (.unforeseen e)) :
    rw.onward compiled s 0 spans = .error (.unforeseen e) ↔
      ∃ a ∈ spans.head?, a.stop ≤ s.length := by
  cases spans with
  | nil => simp [onward]
  | cons a rest =>
    rw [onward_cons, if_neg (Nat.not_lt_zero _), piece_of_unread hexpand]
    by_cases hstop : s.length < a.stop
    · simp [hstop]
    · simp [hstop, Nat.le_of_not_lt hstop]

theorem head?_mergeSort_iff : a ∈ (spans.mergeSort Span.sortsBefore).head? ↔
    a ∈ spans ∧ ∀ b ∈ spans, a.sortsBefore b := by
  have hsorted := Span.pairwise_mergeSort spans
  have hmem (b : Span) : b ∈ spans.mergeSort Span.sortsBefore ↔ b ∈ spans := List.mem_mergeSort
  cases hs : spans.mergeSort Span.sortsBefore with
  | nil =>
    rw [hs] at hmem
    simp [← hmem]
  | cons c rest =>
    rw [hs] at hsorted hmem
    have hc : ∀ b ∈ spans, c.sortsBefore b := by
      intro b hb
      rcases List.mem_cons.1 ((hmem b).2 hb) with rfl | hb
      · exact Span.sortsBefore_refl b
      · exact (List.pairwise_cons.1 hsorted).1 b hb
    simp only [List.head?_cons, Option.mem_some_iff]
    constructor
    · rintro rfl
      exact ⟨(hmem c).1 List.mem_cons_self, hc⟩
    · rintro ⟨ha, hfirst⟩
      exact Span.sortsBefore_antisymm (hc a ha) (hfirst c ((hmem c).1 List.mem_cons_self))

theorem apply_eq_unforeseen_iff {e : Unforeseen} :
    rw.apply dialect s spans = .error (.unforeseen e) ↔ Fails dialect rw s spans e := by
  constructor
  · intro h
    rcases unread_of_apply h with hcompile | ⟨compiled, hcompile, hexpand⟩
    · exact .pattern (mapError_ofFault_eq_unforeseen_iff.1 hcompile)
    · rw [apply_of_read hcompile, onward_eq_unforeseen_iff hexpand] at h
      obtain ⟨a, ha, hstop⟩ := h
      obtain ⟨ha, hfirst⟩ := head?_mergeSort_iff.1 ha
      exact .template (compile_eq_ok_iff.1 hcompile) ha hfirst hstop
        (mapError_ofFault_eq_unforeseen_iff.1 hexpand)
  · intro h
    cases h with
    | pattern failed => exact apply_of_unread (mapError_ofFault_eq_unforeseen_iff.2 failed)
    | template read entry first within failed =>
      rw [apply_of_read (compile_eq_ok_iff.2 read),
        onward_eq_unforeseen_iff (mapError_ofFault_eq_unforeseen_iff.2 failed)]
      exact ⟨_, head?_mergeSort_iff.2 ⟨entry, first⟩, within⟩

/-- Whatever library reads the rewrite, a list is rewritten exactly if the pattern is valid and,
where there is a span at all, the template is, the spans lie in the text, no two of them intersect,
and in the text of each the first occurrence of the pattern can be replaced without a change of
length. The result is the text with these replacements. Otherwise there is a correction error, which
names a fault of the list, unless the library fails in a way that is not its own. A list in another
order has the same result, or the same error. -/
theorem apply_verdict (dialect : Dialect) (rw : Rewrite) (s : Text) (spans : List Span) :
    ((∃ t, rw.apply dialect s spans = .ok t) ↔
      ∃ compiled, dialect.compile rw.flags rw.pattern = .ok compiled ∧
        (spans ≠ [] → ∃ expand, compiled.template rw.replacement = .ok expand ∧
          (∀ a ∈ spans, a.stop ≤ s.length) ∧
          spans.Pairwise (fun a b => a.intersects b = false) ∧
          ∀ a ∈ spans, ∃ r, Exchanges compiled.matcher expand (s.slice a.start a.stop) r)) ∧
    (∀ t, rw.apply dialect s spans = .ok t → t.length = s.length ∧
      (∀ i, ¬Covered spans i → t[i]? = s[i]?) ∧
      ∀ a ∈ spans, ∃ compiled expand, dialect.compile rw.flags rw.pattern = .ok compiled ∧
        compiled.template rw.replacement = .ok expand ∧
        Exchanges compiled.matcher expand (s.slice a.start a.stop) (t.slice a.start a.stop)) ∧
    (∀ e, rw.apply dialect s spans = .error (.refused e) → Grounds dialect rw s spans e) ∧
    (∀ e, rw.apply dialect s spans = .error (.unforeseen e) ↔ Fails dialect rw s spans e) ∧
    ∀ spans', spans.Perm spans' → rw.apply dialect s spans' = rw.apply dialect s spans := by
  refine ⟨?_, ?_, fun e => grounds_of_apply, fun e => apply_eq_unforeseen_iff,
    fun spans' hp => (apply_eq_of_perm hp).symm⟩
  · rw [exists_apply_iff]
    refine exists_congr fun compiled => and_congr compile_eq_ok_iff ?_
    by_cases hne : spans = []
    · subst hne
      simp [Span.Separate]
    · rw [forall_rewritable_iff hne]
      constructor
      · rintro ⟨hseparate, expand, hexpand, hstop, hr⟩ -
        exact ⟨expand, expansion_eq_ok_iff.1 hexpand, hstop, hseparate, hr⟩
      · intro h
        obtain ⟨expand, hexpand, hstop, hseparate, hr⟩ := h hne
        exact ⟨hseparate, expand, expansion_eq_ok_iff.2 hexpand, hstop, hr⟩
  · intro t ht
    obtain ⟨compiled, -, -, hspans, hreplaces⟩ := apply_eq_ok_iff.1 ht
    have hlength := hreplaces.length_eq (fun a ha => (hspans a ha).1)
      fun a ha => (hspans a ha).length_rewritten
    refine ⟨hlength, hreplaces.outside, fun a ha => ?_⟩
    obtain ⟨compiled, expand, hcompile, hexpand, hr⟩ := exchanges_of_apply ht ha
    exact ⟨compiled, expand, compile_eq_ok_iff.1 hcompile, expansion_eq_ok_iff.1 hexpand, hr⟩

/-- A number of turns beyond what the library counts is not called invalid, so it is no correction
error that comes of it, even where there is nothing to rewrite. -/
theorem apply_of_huge_count :
    let rw : Rewrite := { pattern := "a{99999999999}".toList, replacement := [] }
    let failed : Unforeseen := .tooLarge "the repetition number is too large"
    rw.apply .standard [] [] = .error (.unforeseen failed) ∧
      ∀ e, rw.apply .standard [] [] ≠ .error (.refused e) := by
  intro rw failed
  have hcompile : rw.compile .standard = .error (.unforeseen failed) := rfl
  rw [apply_of_unread hcompile]
  exact ⟨rfl, fun e h => nomatch h⟩

end Rewrite

end PatternLint
