import PatternLint.Pattern.Engine
import PatternLint.Proofs.Correction.Rewrite

/-! When the spans of a list can be rewritten, and what comes of it. The pass over them succeeds
exactly when no two spans intersect and each of them can be rewritten by itself, and the result is
said place by place, whatever the order of the list. A piece has the width of its span, so rewriting
some spans leaves the text and the place of the others as they are: a list can be rewritten in two
parts, one after the other. -/

namespace PatternLint

namespace Rewrite

variable {dialect : Dialect} {rw : Rewrite} {compiled : Compiled} {s t u : Text}
  {piece piece' : Span → Text} {cursor : Nat} {a : Span} {spans spans' rest : List Span}

/-- The span lies in the text, and its text can be rewritten. -/
def Rewritable (rw : Rewrite) (compiled : Compiled) (s : Text) (a : Span) : Prop :=
  a.stop ≤ s.length ∧ ∃ r, rw.piece compiled a.start (s.slice a.start a.stop) = .ok r

/-- What the text of a span is rewritten to. -/
def rewritten (rw : Rewrite) (compiled : Compiled) (s : Text) (a : Span) : Text :=
  match rw.piece compiled a.start (s.slice a.start a.stop) with
  | .ok r => r
  | .error _ => []

theorem Rewritable.piece_eq (h : rw.Rewritable compiled s a) :
    rw.piece compiled a.start (s.slice a.start a.stop) = .ok (rw.rewritten compiled s a) := by
  obtain ⟨-, r, hr⟩ := h
  rw [rewritten, hr]

theorem length_of_piece {offset : Nat} (h : rw.piece compiled offset s = .ok t) :
    t.length = s.length := by
  cases hexpand : rw.expansion compiled with
  | error f =>
    rw [piece_of_unread hexpand] at h
    cases h
  | ok expand =>
    rw [piece_of_read hexpand] at h
    split at h
    · cases h
    · dsimp only at h
      split at h
      · rename_i hlength
        exact Except.ok.inj h ▸ hlength
      · cases h

theorem Rewritable.length_rewritten (h : rw.Rewritable compiled s a) :
    (rw.rewritten compiled s a).length = a.stop - a.start :=
  (length_of_piece h.piece_eq).trans (Text.length_slice h.1)

/-! The pass over spans in order. -/

theorem onward_cons_eq_ok (h : rw.onward compiled s cursor (a :: rest) = .ok t) :
    cursor ≤ a.start ∧ rw.Rewritable compiled s a ∧
      ∃ u, rw.onward compiled s a.stop rest = .ok u := by
  rw [onward_cons] at h
  split at h
  · cases h
  · rename_i hcursor
    split at h
    · cases h
    · rename_i hstop
      split at h
      · cases h
      · rename_i r hpiece
        split at h
        · cases h
        · rename_i u hrest
          exact ⟨Nat.le_of_not_lt hcursor, ⟨Nat.le_of_not_lt hstop, r, hpiece⟩, u, hrest⟩

theorem apart_of_onward (h : rw.onward compiled s cursor spans = .ok t) :
    Span.Apart spans ∧ ∀ a ∈ spans, cursor ≤ a.start ∧ rw.Rewritable compiled s a := by
  induction spans generalizing cursor t with
  | nil => exact ⟨.nil, by simp⟩
  | cons a rest ih =>
    obtain ⟨hcursor, ha, u, hu⟩ := onward_cons_eq_ok h
    obtain ⟨hapart, hrest⟩ := ih hu
    have hle := a.start_le_stop
    refine ⟨.cons (fun b hb => (hrest b hb).1) hapart, fun b hb => ?_⟩
    rcases List.mem_cons.1 hb with rfl | hb
    · exact ⟨hcursor, ha⟩
    · exact ⟨by have := (hrest b hb).1; omega, (hrest b hb).2⟩

/-- The text `t` is `s` with a piece in place of each span. -/
structure Replaces (s : Text) (piece : Span → Text) (spans : List Span) (t : Text) : Prop where
  inside : ∀ a ∈ spans, ∀ i, a.start ≤ i → i < a.stop → t[i]? = (piece a)[i - a.start]?
  outside : ∀ i, ¬Covered spans i → t[i]? = s[i]?

namespace Replaces

theorem unique (h : Replaces s piece spans t) (h' : Replaces s piece spans u) : t = u := by
  apply List.ext_getElem?
  intro i
  by_cases hc : Covered spans i
  · obtain ⟨a, ha, h1, h2⟩ := hc
    rw [h.inside a ha i h1 h2, h'.inside a ha i h1 h2]
  · rw [h.outside i hc, h'.outside i hc]

theorem perm (h : Replaces s piece spans t) (hp : spans.Perm spans') :
    Replaces s piece spans' t where
  inside a ha := h.inside a (hp.mem_iff.2 ha)
  outside i hi := h.outside i fun ⟨a, ha, hai⟩ => hi ⟨a, hp.mem_iff.1 ha, hai⟩

theorem length_eq (h : Replaces s piece spans t) (hstop : ∀ a ∈ spans, a.stop ≤ s.length)
    (hwidth : ∀ a ∈ spans, (piece a).length = a.stop - a.start) : t.length = s.length := by
  have hends (i : Nat) : i < t.length ↔ i < s.length := by
    by_cases hc : Covered spans i
    · obtain ⟨a, ha, h1, h2⟩ := hc
      have hw := hwidth a ha
      have hs := hstop a ha
      have hin := h.inside a ha i h1 h2
      rw [List.getElem?_eq_getElem (by omega : i - a.start < (piece a).length)] at hin
      have := (List.getElem?_eq_some_iff.1 hin).1
      omega
    · have hnone : t.length ≤ i ↔ s.length ≤ i := by
        rw [← List.getElem?_eq_none_iff, h.outside i hc, List.getElem?_eq_none_iff]
      omega
  have h1 := hends s.length
  have h2 := hends t.length
  omega

/-- Pieces put in one after the other. -/
theorem append (h : Replaces s piece spans u) (h' : Replaces u piece' spans' t)
    (hapart : ∀ a ∈ spans, ∀ b ∈ spans', a.intersects b = false)
    (hpiece : ∀ b ∈ spans', piece' b = piece b) : Replaces s piece (spans ++ spans') t where
  inside a ha i h1 h2 := by
    rcases List.mem_append.1 ha with ha | ha
    · have hcover : ¬Covered spans' i := by
        refine not_covered_of_not_intersects (fun b hb => ?_) h1 h2
        rw [Span.intersects_comm]
        exact hapart a ha b hb
      rw [h'.outside i hcover, h.inside a ha i h1 h2]
    · rw [h'.inside a ha i h1 h2, hpiece a ha]
  outside i hi := by
    have hfirst : ¬Covered spans i :=
      fun ⟨a, ha, hai⟩ => hi ⟨a, List.mem_append_left _ ha, hai⟩
    have hsecond : ¬Covered spans' i :=
      fun ⟨a, ha, hai⟩ => hi ⟨a, List.mem_append_right _ ha, hai⟩
    rw [h'.outside i hsecond, h.outside i hfirst]

end Replaces

theorem apply_of_rewritable (hcompile : rw.compile dialect = .ok compiled)
    (h : Span.Separate spans)
    (hspans : ∀ a ∈ spans, rw.Rewritable compiled s a) :
    ∃ t, rw.apply dialect s spans = .ok t ∧ Replaces s (rw.rewritten compiled s) spans t := by
  have hperm := List.mergeSort_perm spans Span.sortsBefore
  have hsorted : ∀ a ∈ spans.mergeSort Span.sortsBefore, rw.Rewritable compiled s a :=
    fun a ha => hspans a (hperm.mem_iff.1 ha)
  have hapart := Span.apart_mergeSort_iff.2 h
  have hcursor : ∀ a ∈ spans.mergeSort Span.sortsBefore, 0 ≤ a.start := fun a _ => Nat.zero_le _
  have hstop := fun a ha => (hsorted a ha).1
  have hresult := onward_eq_ok hapart hcursor hstop fun a ha => (hsorted a ha).piece_eq
  have hplaces := getElem?_spliced hapart hcursor hstop fun a ha => (hsorted a ha).length_rewritten
  refine ⟨_, ?_, Replaces.perm ⟨fun a ha i => (hplaces i).1 a ha, fun i => ?_⟩ hperm⟩
  · rw [apply_of_read hcompile]
    exact hresult
  · exact (hplaces i).2 (Nat.zero_le i)

theorem rewritable_of_apply (h : rw.apply dialect s spans = .ok t) :
    ∃ compiled, rw.compile dialect = .ok compiled ∧ Span.Separate spans ∧
      ∀ a ∈ spans, rw.Rewritable compiled s a := by
  cases hcompile : rw.compile dialect with
  | error f =>
    rw [apply_of_unread hcompile] at h
    cases h
  | ok compiled =>
    rw [apply_of_read hcompile] at h
    obtain ⟨hapart, hspans⟩ := apart_of_onward h
    refine ⟨compiled, rfl, Span.apart_mergeSort_iff.1 hapart, fun a ha => ?_⟩
    exact (hspans a (List.mem_mergeSort.2 ha)).2

/-- What rewriting the spans of a list comes to, whatever their order. -/
theorem apply_eq_ok_iff : rw.apply dialect s spans = .ok t ↔
    ∃ compiled, rw.compile dialect = .ok compiled ∧ Span.Separate spans ∧
      (∀ a ∈ spans, rw.Rewritable compiled s a) ∧ Replaces s (rw.rewritten compiled s) spans t := by
  refine ⟨fun h => ?_, ?_⟩
  · obtain ⟨compiled, hcompile, hseparate, hspans⟩ := rewritable_of_apply h
    obtain ⟨u, hu, hreplaces⟩ := apply_of_rewritable hcompile hseparate hspans
    obtain rfl := Except.ok.inj (h.symm.trans hu)
    exact ⟨compiled, hcompile, hseparate, hspans, hreplaces⟩
  · rintro ⟨compiled, hcompile, hseparate, hspans, hreplaces⟩
    obtain ⟨u, hu, hreplaces'⟩ := apply_of_rewritable hcompile hseparate hspans
    rw [hu, hreplaces.unique hreplaces']

theorem apply_eq_of_perm (hp : spans.Perm spans') :
    rw.apply dialect s spans = rw.apply dialect s spans' := by
  rw [apply, apply, Span.mergeSort_eq_of_perm hp]

theorem apply_perm (hp : spans.Perm spans') :
    rw.apply dialect s spans = .ok t ↔ rw.apply dialect s spans' = .ok t := by
  rw [apply_eq_of_perm hp]

section
variable (hu : Replaces s (rw.rewritten compiled s) spans u)
  (hapart : ∀ a ∈ spans, ∀ b ∈ spans', a.intersects b = false) {b : Span} (hb : b ∈ spans')
include hu hapart hb

/-- Rewriting some spans leaves the text of the others. -/
theorem slice_eq_of_replaces : u.slice b.start b.stop = s.slice b.start b.stop :=
  Text.slice_congr fun i h1 h2 =>
    hu.outside i (not_covered_of_not_intersects (fun a ha => hapart a ha b hb) h1 h2)

theorem rewritten_eq_of_replaces : rw.rewritten compiled u b = rw.rewritten compiled s b := by
  rw [rewritten, rewritten, slice_eq_of_replaces hu hapart hb]

theorem rewritable_iff_of_replaces (hspans : ∀ a ∈ spans, rw.Rewritable compiled s a) :
    rw.Rewritable compiled u b ↔ rw.Rewritable compiled s b := by
  have hlength := hu.length_eq (fun a ha => (hspans a ha).1)
    fun a ha => (hspans a ha).length_rewritten
  rw [Rewritable, Rewritable, slice_eq_of_replaces hu hapart hb, hlength]

end

theorem apply_append_of_separate (h : Span.Separate (spans ++ spans')) :
    rw.apply dialect s (spans ++ spans') = .ok t ↔
      ∃ u, rw.apply dialect s spans = .ok u ∧ rw.apply dialect u spans' = .ok t := by
  obtain ⟨hfirst, hsecond, hapart⟩ := List.pairwise_append.1 h
  refine ⟨fun ht => ?_, ?_⟩
  · obtain ⟨compiled, hcompile, -, hspans, hreplaces⟩ := apply_eq_ok_iff.1 ht
    obtain ⟨hspans, hspans'⟩ := List.forall_mem_append.1 hspans
    obtain ⟨u, hu, hu'⟩ := apply_of_rewritable hcompile hfirst hspans
    obtain ⟨t', ht', ht''⟩ := apply_of_rewritable (s := u) hcompile hsecond fun b hb =>
      (rewritable_iff_of_replaces hu' hapart hb hspans).2 (hspans' b hb)
    have hboth := hu'.append ht'' hapart fun b hb => rewritten_eq_of_replaces hu' hapart hb
    rw [hreplaces.unique hboth]
    exact ⟨u, hu, ht'⟩
  · rintro ⟨u, hu, ht⟩
    obtain ⟨compiled, hcompile, -, hspans, hreplaces⟩ := apply_eq_ok_iff.1 hu
    obtain ⟨compiled', hcompile', -, hspans', hreplaces'⟩ := apply_eq_ok_iff.1 ht
    obtain rfl := Except.ok.inj (hcompile.symm.trans hcompile')
    refine apply_eq_ok_iff.2 ⟨compiled, hcompile, h, List.forall_mem_append.2 ⟨hspans, ?_⟩,
      hreplaces.append hreplaces' hapart fun b hb => rewritten_eq_of_replaces hreplaces hapart hb⟩
    exact fun b hb => (rewritable_iff_of_replaces hreplaces hapart hb hspans).1 (hspans' b hb)

/-- Whatever library reads the rewrite: of spans no two of which intersect, rewriting all at once
comes to the same, success and result, as rewriting some of them first and then the others, in
either order. -/
theorem apply_in_parts (dialect : Dialect) (rw : Rewrite) (s t : Text) {spans spans' : List Span}
    (h : (spans ++ spans').Pairwise fun a b => a.intersects b = false) :
    (rw.apply dialect s (spans ++ spans') = .ok t ↔
      ∃ u, rw.apply dialect s spans = .ok u ∧ rw.apply dialect u spans' = .ok t) ∧
    (rw.apply dialect s (spans ++ spans') = .ok t ↔
      ∃ u, rw.apply dialect s spans' = .ok u ∧ rw.apply dialect u spans = .ok t) := by
  have hperm : (spans ++ spans').Perm (spans' ++ spans) := List.perm_append_comm
  refine ⟨apply_append_of_separate h, ?_⟩
  exact (apply_perm hperm).trans (apply_append_of_separate (Span.Separate.perm h hperm))

/-- Letters change places in spans given out of order, of which one is empty and ends another. -/
theorem apply_swap_in_parts :
    let rw : Rewrite := { pattern := "(a?)(b?)".toList, replacement := "\\2\\1".toList }
    let spans : List Span := [⟨3, 5, by decide⟩]
    let spans' : List Span := [⟨2, 2, by decide⟩, ⟨0, 2, by decide⟩]
    (spans ++ spans').Pairwise (fun a b => a.intersects b = false) ∧
      ∃ u, rw.apply .standard "ab|ab".toList spans = .ok u ∧
        rw.apply .standard u spans' = .ok "ba|ba".toList := by
  intro rw spans spans'
  have hseparate : (spans ++ spans').Pairwise fun a b => a.intersects b = false := by decide
  let sorted : List Span := [⟨0, 2, by decide⟩, ⟨2, 2, by decide⟩, ⟨3, 5, by decide⟩]
  have happly : (rw.apply .standard "ab|ab".toList sorted).toOption = some "ba|ba".toList := by
    have hsorted : Span.Apart sorted := by
      unfold Span.Apart
      decide
    rw [apply, hsorted.mergeSort_eq]
    decide +kernel
  have hbatch : rw.apply .standard "ab|ab".toList (spans ++ spans') = .ok "ba|ba".toList := by
    apply (apply_perm (by decide : sorted.Perm (spans ++ spans'))).1
    cases hr : rw.apply .standard "ab|ab".toList sorted with
    | error e =>
      rw [hr] at happly
      contradiction
    | ok u =>
      rw [hr] at happly
      rw [Option.some.inj happly]
  exact ⟨hseparate, (apply_in_parts .standard rw _ _ hseparate).1.1 hbatch⟩

end Rewrite

end PatternLint
