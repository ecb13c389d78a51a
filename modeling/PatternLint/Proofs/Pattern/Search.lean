import PatternLint.Pattern.Run
import PatternLint.Proofs.Pattern.Place

/-! The search for a match, place by place: where none begins it moves on by one. So the match that
it finds is the one at the first place where there is one. -/

namespace PatternLint

namespace Pattern

open State

variable {p : Pattern} {s : Text} {i : Nat} {f : Found}

theorem start_of_matchState (h : p.matchState (ofPlace s i) = some f) : f.extent.start = i := by
  obtain ⟨t, ht, rfl⟩ := Option.map_eq_some_iff.1 h
  obtain ⟨j, g, hij, -, hr⟩ := forward_run p s i [] some t ht
  obtain rfl := Option.some.inj hr
  exact Nat.min_eq_left hij

theorem search_of_some (h : p.matchState (ofPlace s i) = some f) : p.search s i = some f := by
  rw [search, searchState, h]

theorem search_of_none (h : p.matchState (ofPlace s i) = none) :
    p.search s i = if i < s.length then p.search s (i + 1) else none := by
  rw [search, searchState, h]
  dsimp only
  split
  · rename_i c t hn
    rw [ofPlace_eq, next?_atPlace, Option.map_eq_some_iff] at hn
    obtain ⟨d, hd, he⟩ := hn
    rw [if_pos (List.getElem?_eq_some_iff.1 hd).1, ← (Prod.mk.inj he).2]
    rfl
  · rename_i hn
    rw [ofPlace_eq, next?_atPlace, Option.map_eq_none_iff, List.getElem?_eq_none_iff] at hn
    rw [if_neg (Nat.not_lt.2 hn)]

/-- The match begins at the first place from `i` on at which there is one. -/
def IsFirst (p : Pattern) (s : Text) (i : Nat) (f : Found) : Prop :=
  i ≤ f.extent.start ∧ f.extent.start ≤ s.length ∧
    p.matchState (ofPlace s f.extent.start) = some f ∧
    ∀ j, i ≤ j → j < f.extent.start → p.matchState (ofPlace s j) = none

theorem isFirst_of_some {f' : Found} (hi : i ≤ s.length)
    (h : p.matchState (ofPlace s i) = some f') : p.IsFirst s i f ↔ f' = f := by
  have hstart := start_of_matchState h
  constructor
  · rintro ⟨hle, -, hf, hnone⟩
    rcases Nat.lt_or_eq_of_le hle with hlt | heq
    · cases (hnone i (Nat.le_refl i) hlt).symm.trans h
    · rw [← heq, h] at hf
      exact Option.some.inj hf
  · rintro rfl
    exact ⟨by omega, by omega, hstart ▸ h, fun j h1 h2 => by omega⟩

theorem isFirst_of_none (h : p.matchState (ofPlace s i) = none) :
    p.IsFirst s i f ↔ p.IsFirst s (i + 1) f := by
  constructor
  · rintro ⟨hle, hlen, hf, hnone⟩
    have hne : i ≠ f.extent.start := by
      rintro rfl
      cases h.symm.trans hf
    exact ⟨by omega, hlen, hf, fun j h1 h2 => hnone j (by omega) h2⟩
  · rintro ⟨hle, hlen, hf, hnone⟩
    refine ⟨by omega, hlen, hf, fun j h1 h2 => ?_⟩
    rcases Nat.lt_or_eq_of_le h1 with h1 | rfl
    · exact hnone j h1 h2
    · exact h

theorem search_eq_some_iff (hi : i ≤ s.length) : p.search s i = some f ↔ p.IsFirst s i f := by
  induction hn : s.length - i using Nat.strongRecOn generalizing i with
  | ind n ih =>
    cases h : p.matchState (ofPlace s i) with
    | some f' => rw [search_of_some h, isFirst_of_some hi h, Option.some_inj]
    | none =>
      rw [search_of_none h, isFirst_of_none h]
      by_cases hlt : i < s.length
      · rw [if_pos hlt]
        exact ih _ (by omega) hlt rfl
      · rw [if_neg hlt]
        refine iff_of_false nofun ?_
        rintro ⟨hle, hlen, -, -⟩
        omega

end Pattern

end PatternLint
