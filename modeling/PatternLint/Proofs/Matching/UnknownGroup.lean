import PatternLint.Proofs.Matching.Spans
import PatternLint.Syntax.Classify

/-! A group that the pattern does not have. Whether it does is asked only of a candidate that
overlaps no excluded item, so the run goes over the same candidates as the run for the whole match,
and fails at the first that the other accepts. -/

namespace PatternLint.Matching

open Syntax (ExcludedSet)

/-- The candidates up to the first accepted one, where an unknown group is noticed. -/
def upToAccepted : List Candidate → List Candidate
  | [] => []
  | .accepted _ :: _ => [.unknownGroup]
  | c :: rest => c :: upToAccepted rest

variable {matcher : Matcher} {group : GroupRef} {excluded : ExcludedSet} {s : Text}

theorem judge_of_unknown (hgroup : matcher.group? group = none) (f : Found) :
    judge matcher group excluded f =
      if excluded.intersects f.extent then .excluded f.extent else .unknownGroup := by
  rw [judge, hgroup]

theorem group?_zero (matcher : Matcher) : matcher.group? (.index 0) = some 0 := by
  simp [Matcher.group?]

theorem judge_zero (f : Found) :
    judge matcher (.index 0) excluded f =
      if excluded.intersects f.extent then .excluded f.extent
      else .accepted ⟨f.extent, f.extent⟩ := by
  rw [judge, group?_zero]
  rfl

/-- From every place on, the two runs go over the same candidates until one is accepted. -/
theorem candidatesFrom_of_unknown (hgroup : matcher.group? group = none) (p : Nat) :
    candidatesFrom matcher group excluded s p =
      upToAccepted (candidatesFrom matcher (.index 0) excluded s p) := by
  induction hn : s.length + 1 - p using Nat.strongRecOn generalizing p with
  | ind n ih =>
    rcases Nat.lt_or_ge s.length p with hlt | hle
    · rw [candidatesFrom_of_lt hlt, candidatesFrom_of_lt hlt]
      rfl
    · rw [candidatesFrom_eq hle, candidatesFrom_eq hle]
      cases hs : matcher.search s p with
      | none => rfl
      | some f =>
        have hstart := Matcher.le_start_of_search hle hs
        dsimp only
        rw [judge_of_unknown hgroup, judge_zero]
        -- both runs pass an excluded candidate by and resume at the same place
        cases excluded.intersects f.extent with
        | true => exact congrArg (Candidate.excluded f.extent :: ·) (ih _ (by omega) _ rfl)
        | false => rfl

theorem unknownGroup_mem_upToAccepted_iff {cs : List Candidate} (hknown : .unknownGroup ∉ cs) :
    .unknownGroup ∈ upToAccepted cs ↔ accepted cs ≠ [] := by
  fun_induction upToAccepted cs with
  | case1 => simp [accepted]
  | case2 m rest => simp [accepted, Candidate.match?]
  | case3 c rest hc ih =>
    rw [List.mem_cons, not_or] at hknown
    have hdropped : c.match? = none := by
      cases c with
      | accepted m => exact absurd rfl (hc m)
      | _ => rfl
    rw [List.mem_cons, or_iff_right hknown.1, ih hknown.2, accepted, accepted,
      List.filterMap_cons_none hdropped]

theorem matches_zero (excluded : ExcludedSet) (s : Text) :
    matcher.matches (.index 0) excluded s =
      .ok (accepted (candidates matcher (.index 0) excluded s)) := by
  unfold Matcher.matches candidates
  simp [unknownGroup_notMem (group?_zero matcher)]

theorem matches_of_unknown (hgroup : matcher.group? group = none) (excluded : ExcludedSet)
    (s : Text) :
    matcher.matches group excluded s =
      if accepted (candidates matcher (.index 0) excluded s) = [] then .ok [] else .error {} := by
  have hmem : .unknownGroup ∈ candidatesFrom matcher group excluded s 0 ↔
      accepted (candidates matcher (.index 0) excluded s) ≠ [] := by
    rw [candidatesFrom_of_unknown hgroup]
    exact unknownGroup_mem_upToAccepted_iff (unknownGroup_notMem (group?_zero matcher) excluded s 0)
  unfold Matcher.matches
  dsimp only
  rw [candidates, accepted_of_unknown hgroup, List.contains_eq_mem]
  by_cases h : accepted (candidates matcher (.index 0) excluded s) = []
  · rw [if_pos h, decide_eq_false fun hunknown => hmem.1 hunknown h]
    rfl
  · rw [if_neg h, decide_eq_true (hmem.2 h)]
    rfl

/-- The run for a group that the pattern does not have fails exactly when the run for the whole
match, which never fails, has a match, and otherwise has none. Up to there both meet the same
candidates. -/
theorem matches_unknown_iff (hgroup : matcher.group? group = none) (excluded : ExcludedSet)
    (s : Text) :
    ∃ found, matcher.matches (.index 0) excluded s = .ok found ∧
      (matcher.matches group excluded s = .error {} ↔ found ≠ []) ∧
      (matcher.matches group excluded s = .ok [] ↔ found = []) ∧
      candidates matcher group excluded s =
        upToAccepted (candidates matcher (.index 0) excluded s) := by
  refine ⟨_, matches_zero excluded s, ?_, ?_, candidatesFrom_of_unknown hgroup 0⟩
  · simp [matches_of_unknown hgroup]
  · simp [matches_of_unknown hgroup]

/-- The first candidate lies in a comment and is passed by; the second survives. Where there is no
other, nothing is asked of the group. -/
theorem matches_unknown_behind_comment :
    let matcher := Regex.matcher ⟨.char 'a', 0, []⟩
    let tail : GroupRef := .name "tail"
    matcher.group? tail = none ∧
      matcher.matches tail (Syntax.classify "/*a*/ a".toList) "/*a*/ a".toList = .error {} ∧
      matcher.matches tail (Syntax.classify "/*a*/".toList) "/*a*/".toList = .ok [] := by
  intro matcher tail
  have hgroup : matcher.group? tail = none := by decide
  have hsurvivor :
      candidates matcher (.index 0) (Syntax.classify "/*a*/ a".toList) "/*a*/ a".toList =
        [.excluded ⟨2, 3, by decide⟩, .accepted ⟨⟨6, 7, by decide⟩, ⟨6, 7, by decide⟩⟩] := by
    decide +kernel
  have hdropped :
      candidates matcher (.index 0) (Syntax.classify "/*a*/".toList) "/*a*/".toList =
        [.excluded ⟨2, 3, by decide⟩] := by
    decide +kernel
  refine ⟨hgroup, ?_, ?_⟩
  · obtain ⟨found, hzero, herror, -, -⟩ :=
      matches_unknown_iff hgroup (Syntax.classify "/*a*/ a".toList) "/*a*/ a".toList
    rw [matches_zero, hsurvivor] at hzero
    exact herror.2 (Except.ok.inj hzero ▸ List.cons_ne_nil _ _)
  · obtain ⟨found, hzero, -, hempty, -⟩ :=
      matches_unknown_iff hgroup (Syntax.classify "/*a*/".toList) "/*a*/".toList
    rw [matches_zero, hdropped] at hzero
    exact hempty.2 (Except.ok.inj hzero).symm

end PatternLint.Matching
