import PatternLint.Matching

/-! The search for candidates, place by place: where no match begins the search moves on by one,
and where one begins it is judged there. Nothing between two places is skipped, so the search for
the leftmost match and a try at every place come to the same. -/

namespace PatternLint

namespace Matcher

variable {matcher : Matcher} {s : Text} {i : Nat} {f : Found}

theorem le_start_of_search (hi : i ≤ s.length) (h : matcher.search s i = some f) :
    i ≤ f.extent.start :=
  ((matcher.search_eq_some_iff hi).1 h).1

theorem search_of_some (hi : i ≤ s.length) (h : matcher.matchAt s i = some f) :
    matcher.search s i = some f := by
  have hstart := matcher.start_matchAt h
  rw [matcher.search_eq_some_iff hi, hstart]
  exact ⟨Nat.le_refl i, hi, h, fun j h1 h2 => by omega⟩

/-- Where no match begins, the search for one may begin a place later. -/
theorem search_of_none (hi : i ≤ s.length) (h : matcher.matchAt s i = none) :
    matcher.search s i = if i < s.length then matcher.search s (i + 1) else none := by
  apply Option.ext
  intro f
  rw [matcher.search_eq_some_iff hi]
  have hne (hf : matcher.matchAt s f.extent.start = some f) : f.extent.start ≠ i := by
    intro heq
    rw [heq, h] at hf
    cases hf
  split
  · rename_i hlt
    rw [matcher.search_eq_some_iff (Nat.succ_le_of_lt hlt)]
    constructor
    · rintro ⟨hle, hlen, hf, hnone⟩
      have := hne hf
      exact ⟨by omega, hlen, hf, fun j h1 h2 => hnone j (by omega) h2⟩
    · rintro ⟨hle, hlen, hf, hnone⟩
      refine ⟨by omega, hlen, hf, fun j h1 h2 => ?_⟩
      rcases Nat.lt_or_eq_of_le h1 with h1 | rfl
      · exact hnone j h1 h2
      · exact h
  · simp only [reduceCtorEq, iff_false]
    rintro ⟨hle, hlen, hf, -⟩
    have := hne hf
    omega

theorem search_eq_none_iff (hi : i ≤ s.length) : matcher.search s i = none ↔
    ∀ j, i ≤ j → j ≤ s.length → matcher.matchAt s j = none := by
  constructor
  · intro h j
    induction j using Nat.strongRecOn with
    | ind j ih =>
      intro h1 h2
      cases hm : matcher.matchAt s j with
      | none => rfl
      | some f =>
        have hstart := matcher.start_matchAt hm
        have hfound := (matcher.search_eq_some_iff hi).2 ⟨by omega, by omega, hstart.symm ▸ hm,
          fun k h3 h4 => ih k (by omega) h3 (by omega)⟩
        rw [h] at hfound
        cases hfound
  · intro h
    cases hs : matcher.search s i with
    | none => rfl
    | some f =>
      obtain ⟨h1, h2, hm, -⟩ := (matcher.search_eq_some_iff hi).1 hs
      rw [h _ h1 h2] at hm
      cases hm

end Matcher

namespace Matching

variable {matcher : Matcher} {group : GroupRef} {excluded : Syntax.ExcludedSet} {s : Text}
  {i : Nat} {f : Found}

theorem candidatesFrom_of_lt (h : s.length < i) :
    candidatesFrom matcher group excluded s i = [] := by
  rw [candidatesFrom, if_neg (Nat.not_le.2 h)]

/-- Every candidate moves the search on by its start and more. -/
theorem start_lt_resume {next : Nat} (h : (judge matcher group excluded f).resume? = some next) :
    f.extent.start < next := by
  revert h
  fun_cases judge matcher group excluded f <;> simp only [Candidate.resume?, Option.some.injEq,
    reduceCtorEq, false_implies] <;> rintro rfl
  · exact Nat.lt_succ_self _
  · exact Nat.lt_succ_self _
  · exact Nat.lt_of_lt_of_le (Nat.lt_succ_self _) (Nat.le_max_right _ _)

/-- The candidates from the one on that a search finds. -/
theorem candidatesFrom_eq (hi : i ≤ s.length) :
    candidatesFrom matcher group excluded s i =
      match matcher.search s i with
      | none => []
      | some f => judge matcher group excluded f ::
          match (judge matcher group excluded f).resume? with
          | none => []
          | some next => candidatesFrom matcher group excluded s next := by
  rw [candidatesFrom, if_pos hi]
  cases hs : matcher.search s i with
  | none => rfl
  | some f =>
    have := Matcher.le_start_of_search hi hs
    dsimp only
    cases hr : (judge matcher group excluded f).resume? with
    | none => rfl
    | some next =>
      have := start_lt_resume hr
      dsimp only
      rw [Nat.max_eq_left (by omega)]

theorem candidatesFrom_of_none (hi : i ≤ s.length) (h : matcher.matchAt s i = none) :
    candidatesFrom matcher group excluded s i =
      candidatesFrom matcher group excluded s (i + 1) := by
  rw [candidatesFrom_eq hi, Matcher.search_of_none hi h]
  rcases Nat.lt_or_eq_of_le hi with hlt | rfl
  · rw [if_pos hlt, ← candidatesFrom_eq (Nat.succ_le_of_lt hlt)]
  · rw [if_neg (Nat.lt_irrefl _), candidatesFrom_of_lt (Nat.lt_succ_self _)]

theorem candidatesFrom_of_some (hi : i ≤ s.length) (h : matcher.matchAt s i = some f) :
    candidatesFrom matcher group excluded s i =
      judge matcher group excluded f ::
        match (judge matcher group excluded f).resume? with
        | none => []
        | some next => candidatesFrom matcher group excluded s next := by
  rw [candidatesFrom_eq hi, Matcher.search_of_some hi h]

end Matching

end PatternLint
