import PatternLint.Pattern.Engine
import PatternLint.Proofs.Matching
import PatternLint.Proofs.Syntax.ExcludedSet

/-! The plain scan for matches tries every place of a text in turn. The search jumps from candidate
to candidate instead, and resumes behind the start of one that it drops; it reports what the plain
scan reports. So a match is missed only where one that is reported covers its start. -/

namespace PatternLint.Matching

open Syntax (Item ExcludedSet)
open Syntax.ExcludedSet (Avoids avoids_iff)

/-- Tries every place from `place` to `last`, and goes on behind what it reports. -/
def scan (reports : Nat → Option Match) (last place : Nat) : List Match :=
  if place ≤ last then
    match reports place with
    | some m => m :: scan reports last (max m.extent.stop (place + 1))
    | none => scan reports last (place + 1)
  else []
termination_by last + 1 - place

section
variable {reports : Nat → Option Match} {last p q : Nat} {m : Match}

theorem scan_of_lt (h : last < p) : scan reports last p = [] := by
  rw [scan, if_neg (Nat.not_le.2 h)]

theorem scan_of_some (hp : p ≤ last) (h : reports p = some m) :
    scan reports last p = m :: scan reports last (max m.extent.stop (p + 1)) := by
  rw [scan, if_pos hp, h]

theorem scan_of_none (hp : p ≤ last) (h : reports p = none) :
    scan reports last p = scan reports last (p + 1) := by
  rw [scan, if_pos hp, h]

theorem exists_of_mem_scan (h : m ∈ scan reports last p) :
    ∃ q, p ≤ q ∧ q ≤ last ∧ reports q = some m := by
  fun_induction scan reports last p with
  | case1 p hp m' hm' ih =>
    rcases List.mem_cons.1 h with rfl | h
    · exact ⟨p, Nat.le_refl p, hp, hm'⟩
    · obtain ⟨q, hq, hlast, hr⟩ := ih h
      exact ⟨q, by omega, hlast, hr⟩
  | case2 p hp hn ih =>
    obtain ⟨q, hq, hlast, hr⟩ := ih h
    exact ⟨q, by omega, hlast, hr⟩
  | case3 p hp => simp at h

section
variable (hstart : ∀ q m, reports q = some m → m.extent.start = q)
include hstart

/-- What is reported begins at later and later places, and nothing of it overlaps. -/
theorem pairwise_scan : (scan reports last p).Pairwise fun m m' =>
    m.extent.start < m'.extent.start ∧ m.extent.stop ≤ m'.extent.start := by
  fun_induction scan reports last p with
  | case1 p hp m hm ih =>
    refine .cons (fun m' hm' => ?_) ih
    obtain ⟨q, hq, -, hr⟩ := exists_of_mem_scan hm'
    rw [hstart p m hm, hstart q m' hr]
    omega
  | case2 p hp hn ih => exact ih
  | case3 p hp => exact .nil

/-- What is to be reported at a place is missed only if what has been reported goes on there. -/
theorem mem_scan_or_covered (hpq : p ≤ q) (hq : q ≤ last) (hm : reports q = some m) :
    m ∈ scan reports last p ∨
      ∃ m' ∈ scan reports last p, m'.extent.start < q ∧ q < m'.extent.stop := by
  fun_induction scan reports last p with
  | case1 p hp m₁ hm₁ ih =>
    have hstart₁ := hstart p m₁ hm₁
    rcases Nat.eq_or_lt_of_le hpq with rfl | hlt
    · obtain rfl := Option.some.inj (hm.symm.trans hm₁)
      exact .inl List.mem_cons_self
    · rcases Nat.lt_or_ge q m₁.extent.stop with hin | hout
      · exact .inr ⟨m₁, List.mem_cons_self, by omega, hin⟩
      · rcases ih (by omega) with hmem | ⟨m', hm', hcover⟩
        · exact .inl (List.mem_cons_of_mem _ hmem)
        · exact .inr ⟨m', List.mem_cons_of_mem _ hm', hcover⟩
  | case2 p hp hn ih =>
    apply ih
    apply Nat.lt_of_le_of_ne hpq
    rintro rfl
    rw [hn] at hm
    simp at hm
  | case3 p hp => omega

end

end

/-- What is to be reported at a place: the match that begins there, if its extent overlaps none of
the items and the group took part in it. -/
def reported? (matcher : Matcher) (index : Nat) (items : List Item) (s : Text) (place : Nat) :
    Option Match :=
  match matcher.matchAt s place with
  | none => none
  | some found =>
    if items.any (·.span.intersects found.extent) then none
    else (found.group? index).map fun span => ⟨span, found.extent⟩

variable {matcher : Matcher} {group : GroupRef} {index : Nat} {items : List Item} {s : Text}
  {p : Nat} {m : Match} {found : Found}

theorem intersects_ofList_eq_any (items : List Item) (a : Span) :
    (ExcludedSet.ofList items).intersects a = items.any (·.span.intersects a) := by
  rw [Bool.eq_iff_iff, Syntax.ExcludedSet.intersects_ofList_iff, List.any_eq_true]

theorem reported?_eq_some_iff : reported? matcher index items s p = some m ↔
    ∃ found, matcher.matchAt s p = some found ∧ Avoids items found.extent ∧
      found.group? index = some m.span ∧ found.extent = m.extent := by
  unfold reported?
  cases hm : matcher.matchAt s p with
  | none => simp
  | some found =>
    simp only [Option.some.injEq, exists_eq_left', ← intersects_ofList_eq_any, avoids_iff]
    cases hx : (ExcludedSet.ofList items).intersects found.extent with
    | true => simp
    | false =>
      simp only [Bool.false_eq_true, if_false, Option.map_eq_some_iff, true_and]
      refine ⟨?_, ?_⟩
      · rintro ⟨span, hspan, rfl⟩
        exact ⟨hspan, rfl⟩
      · rintro ⟨hspan, hextent⟩
        exact ⟨m.span, hspan, by rw [hextent]⟩

theorem start_of_reported? (h : reported? matcher index items s p = some m) :
    m.extent.start = p := by
  obtain ⟨found, hm, -, -, he⟩ := reported?_eq_some_iff.1 h
  rw [← he]
  exact matcher.start_matchAt hm

/-! A candidate is judged as the plain scan judges it, and dropped where the plain scan reports
nothing. -/

theorem match?_judge (hgroup : matcher.group? group = some index) (items : List Item)
    (hm : matcher.matchAt s p = some found) :
    (judge matcher group (.ofList items) found).match? = reported? matcher index items s p := by
  unfold judge reported?
  rw [hm, intersects_ofList_eq_any, hgroup]
  dsimp only
  split
  · rfl
  · cases found.group? index <;> rfl

theorem resume?_judge (hgroup : matcher.group? group = some index) (excluded : ExcludedSet)
    (found : Found) :
    (judge matcher group excluded found).resume? =
      some (match (judge matcher group excluded found).match? with
        | some m => max m.extent.stop (found.extent.start + 1)
        | none => found.extent.start + 1) := by
  unfold judge
  rw [hgroup]
  split
  · rfl
  · dsimp only
    cases found.group? index <;> rfl

theorem judge_ne_unknownGroup (hgroup : matcher.group? group = some index)
    (excluded : ExcludedSet) (found : Found) :
    judge matcher group excluded found ≠ .unknownGroup := by
  intro h
  have hresume := resume?_judge hgroup excluded found
  rw [h] at hresume
  simp [Candidate.resume?] at hresume

theorem unknownGroup_notMem (hgroup : matcher.group? group = some index) (excluded : ExcludedSet)
    (s : Text) (p : Nat) : .unknownGroup ∉ candidatesFrom matcher group excluded s p := by
  fun_induction candidatesFrom matcher group excluded s p with
  | case1 => exact List.not_mem_nil
  | case2 p hp found hs candidate hr =>
    rw [List.mem_singleton]
    exact (judge_ne_unknownGroup hgroup excluded found).symm
  | case3 p hp found hs candidate next hr ih =>
    rw [List.mem_cons]
    exact fun h => h.elim (judge_ne_unknownGroup hgroup excluded found).symm ih
  | case4 => exact List.not_mem_nil

/-- From every place on, the search accepts what the plain scan reports, and it knows the group. -/
theorem accepted_candidatesFrom (hgroup : matcher.group? group = some index) (items : List Item)
    (s : Text) (p : Nat) :
    accepted (candidatesFrom matcher group (.ofList items) s p) =
        scan (reported? matcher index items s) s.length p ∧
      .unknownGroup ∉ candidatesFrom matcher group (.ofList items) s p := by
  refine ⟨?_, unknownGroup_notMem hgroup _ s p⟩
  induction hn : s.length + 1 - p using Nat.strongRecOn generalizing p with
  | ind n ih =>
    rcases Nat.lt_or_ge s.length p with hlt | hle
    · rw [candidatesFrom_of_lt hlt, scan_of_lt hlt]
      rfl
    · cases hm : matcher.matchAt s p with
      | none =>
        have hr : reported? matcher index items s p = none := by rw [reported?, hm]
        rw [candidatesFrom_of_none hle hm, scan_of_none hle hr]
        exact ih _ (by omega) (p + 1) rfl
      | some found =>
        have hstart := matcher.start_matchAt hm
        have hjudge := match?_judge hgroup items hm
        rw [candidatesFrom_of_some hle hm, resume?_judge hgroup, hjudge, hstart]
        cases hr : reported? matcher index items s p with
        | none =>
          rw [hr] at hjudge
          rw [scan_of_none hle hr, ← ih _ (by omega) (p + 1) rfl]
          exact List.filterMap_cons_none hjudge
        | some m =>
          rw [hr] at hjudge
          rw [scan_of_some hle hr, ← ih _ (by omega) (max m.extent.stop (p + 1)) rfl]
          exact List.filterMap_cons_some hjudge

/-- The search always resumes behind the place at which it began. -/
theorem lt_resume_of_search {excluded : ExcludedSet} {next : Nat} (hp : p ≤ s.length)
    (h : matcher.search s p = some found)
    (hnext : (judge matcher group excluded found).resume? = some next) : p < next :=
  Nat.lt_of_le_of_lt (Matcher.le_start_of_search hp h) (start_lt_resume hnext)

/-- With a group that the pattern has, the matches are those of the plain scan, and the search gets
on with each candidate. The extents follow one another and overlap no item; and an occurrence that
is to be reported is, unless the extent of one reported before goes on over its start. -/
theorem matches_eq_scan (matcher : Matcher) (group : GroupRef) {index : Nat}
    (hgroup : matcher.group? group = some index) (items : List Item) (s : Text) :
    let reports := reported? matcher index items s
    let found := scan reports s.length 0
    matcher.matches group (.ofList items) s = .ok found ∧
      (∀ p f next, p ≤ s.length → matcher.search s p = some f →
        (judge matcher group (.ofList items) f).resume? = some next → p < next) ∧
      (found.Pairwise fun m m' =>
        m.extent.start < m'.extent.start ∧ m.extent.stop ≤ m'.extent.start) ∧
      (∀ m ∈ found, Avoids items m.extent) ∧
      ∀ p m, p ≤ s.length → reports p = some m →
        m ∈ found ∨ ∃ m' ∈ found, m'.extent.start < p ∧ p < m'.extent.stop := by
  intro reports found
  have hstart (p : Nat) (m : Match) (h : reports p = some m) : m.extent.start = p :=
    start_of_reported? h
  obtain ⟨haccepted, hknown⟩ := accepted_candidatesFrom hgroup items s 0
  refine ⟨?_, fun p f next => lt_resume_of_search, pairwise_scan hstart, fun m hm => ?_, ?_⟩
  · unfold Matcher.matches candidates
    dsimp only
    rw [haccepted, List.contains_eq_mem, decide_eq_false hknown]
    rfl
  · obtain ⟨p, -, -, hr⟩ := exists_of_mem_scan hm
    obtain ⟨f, -, hfree, -, he⟩ := reported?_eq_some_iff.1 hr
    exact he ▸ hfree
  · exact fun p m hp hr => mem_scan_or_covered hstart (Nat.zero_le p) hp hr

/-- The first of three candidates lies in a comment, and in the last the group takes no part. -/
theorem matches_eq_scan_of_optional_group :
    let matcher := Regex.matcher ⟨.seq (.char 'a') (.optional (.group 1 (.char 'b'))), 1, []⟩
    let items : List Item := [⟨.comment, ⟨0, 3, by decide⟩⟩]
    let s := "ab ab a".toList
    matcher.group? (.index 1) = some 1 ∧
      matcher.matches (.index 1) (.ofList items) s =
        .ok [⟨⟨4, 5, by decide⟩, ⟨3, 5, by decide⟩⟩] := by
  intro matcher items s
  have hgroup : matcher.group? (.index 1) = some 1 := by decide
  have hscan : scan (reported? matcher 1 items s) s.length 0 =
      [⟨⟨4, 5, by decide⟩, ⟨3, 5, by decide⟩⟩] := by decide +kernel
  exact ⟨hgroup, (matches_eq_scan matcher (.index 1) hgroup items s).1.trans (by rw [hscan])⟩

end PatternLint.Matching
