import PatternLint.Proofs.Pattern.Place

/-! Runs of the patterns that rules are built from: a character, a word, and loops over bodies that
take one character a turn. A lazy loop stops at the first place where the rest matches. A greedy
one stops where its body fails, provided that the rest cannot begin with one more turn. -/

namespace PatternLint.Pattern

open State

variable {s : Text} {i : Nat} {g : List (Nat × Span)} {k : Continuation} {r : State}

/-- A pattern that takes one character, at the places where `ok` holds. -/
structure Single (p : Pattern) (s : Text) (ok : Nat → Prop) : Prop where
  run_eq_some : ∀ {i g k r}, p.run (atPlace s i g) k = some r ↔
    ok i ∧ k (atPlace s (i + 1) g) = some r
  lt_length : ∀ {i}, ok i → i < s.length

theorem single_chars (set : CharClass) (s : Text) :
    Single (chars set) s fun i => s[i]?.any set.has where
  run_eq_some {i g k r} := by
    rw [run, next?_atPlace]
    cases s[i]? <;> simp
  lt_length {i} h := by
    obtain ⟨c, hc, -⟩ := (Option.any_eq_true _ _).1 h
    exact (List.getElem?_eq_some_iff.1 hc).1

@[simp] theorem has_single (c d : Char) : (CharClass.single c).has d = true ↔ d = c := by
  simp only [CharClass.has, CharClass.single, List.any_cons, CharClass.itemHas, inRange,
    Bool.false_eq_true, if_false, List.any_nil, Bool.or_false, bne_iff_ne, ne_eq,
    Bool.not_eq_false, Bool.and_eq_true, decide_eq_true_eq]
  refine ⟨?_, ?_⟩
  · intro h
    obtain ⟨h1, h2⟩ := h
    exact Char.ext (UInt32.toNat_inj.1 (Nat.le_antisymm h2 h1))
  · intro h
    obtain rfl := h
    exact ⟨Nat.le_refl _, Nat.le_refl _⟩

@[simp] theorem has_butNot (c d : Char) : (CharClass.butNot c).has d = true ↔ d ≠ c := by
  have h := has_single c d
  simp only [CharClass.has, CharClass.single, CharClass.butNot, bne_iff_ne, ne_eq,
    Bool.not_eq_false, Bool.not_eq_true] at h ⊢
  rw [← h, Bool.not_eq_true]

@[simp] theorem has_all (d : Char) : CharClass.all.has d = true := rfl

theorem has_blank : (CharClass.ofCategory .blank).has = isBlank := by
  funext d
  simp [CharClass.has, CharClass.ofCategory, CharClass.itemHas, Category.has]

theorem run_chars_eq_some {set : CharClass} : (chars set).run (atPlace s i g) k = some r ↔
    s[i]?.any set.has = true ∧ k (atPlace s (i + 1) g) = some r :=
  (single_chars set s).run_eq_some

theorem run_char_eq_some {c : Char} : (char c).run (atPlace s i g) k = some r ↔
    s[i]? = some c ∧ k (atPlace s (i + 1) g) = some r := by
  rw [char, run_chars_eq_some]
  cases s[i]? <;> simp

theorem run_ofText_eq_some {w : Text} : (ofText w).run (atPlace s i g) k = some r ↔
    s.HoldsAt i w ∧ k (atPlace s (i + w.length) g) = some r := by
  induction w generalizing i with
  | nil => simp [ofText, run]
  | cons c w ih =>
    change (char c).run (atPlace s i g) (fun t => (ofText w).run t k) = some r ↔ _
    rw [run_char_eq_some, ih, Text.holdsAt_cons, and_assoc, List.length_cons,
      Nat.add_comm w.length, Nat.add_assoc]

theorem run_anchor_eq_some {condition : Anchor} :
    (anchor condition).run (atPlace s i g) k = some r ↔
      condition.holds (atPlace s i g) = true ∧ k (atPlace s i g) = some r := by
  rw [run]
  split <;> simp_all

theorem run_seq_eq {p q : Pattern} {t : State} : (seq p q).run t k = p.run t fun u => q.run u k :=
  rfl

theorem run_alt_eq_some {p q : Pattern} {t : State} : (alt p q).run t k = some r ↔
    p.run t k = some r ∨ p.run t k = none ∧ q.run t k = some r := by
  simp [run, Option.or_eq_some_iff]

/-- What lies ahead without groups of its own leaves the state as it is. -/
theorem run_ahead_false_eq_some {p : Pattern} {t : State} :
    (ahead false p).run t k = some r ↔ p.run t some = none ∧ k t = some r := by
  rw [run]
  cases p.run t some <;> simp

theorem run_loop_zero (greedy : Bool) (p : Pattern) (t : State) :
    (loop 0 none greedy p).run t k = upTo p.run greedy k none t := rfl

/-- An optional pattern is tried first and then left out. -/
theorem run_optional_eq (p : Pattern) (t : State) :
    (optional p).run t k = (p.run t k).or (k t) := by
  have turn : (fun u : State => if u.left < t.left then upTo p.run true k (some 0) u else k u) =
      k := by
    funext u
    split
    · rw [upTo, if_pos rfl]
    · rfl
  change upTo p.run true k (some 1) t = _
  rw [upTo]
  simp [turn]

section
variable {p : Pattern} {ok : Nat → Prop} (h : Single p s ok)
include h

theorem upTo_turn_eq_some {greedy : Bool} :
    p.run (atPlace s i g) (fun t => if t.left < (atPlace s i g).left then
      upTo p.run greedy k none t else k t) = some r ↔
      ok i ∧ upTo p.run greedy k none (atPlace s (i + 1) g) = some r := by
  rw [h.run_eq_some]
  apply and_congr_right
  intro hi
  have := h.lt_length hi
  rw [if_pos (by simp only [left_atPlace]; omega)]

theorem upTo_lazy_eq_some : upTo p.run false k none (atPlace s i g) = some r ↔
    k (atPlace s i g) = some r ∨ k (atPlace s i g) = none ∧ ok i ∧
      upTo p.run false k none (atPlace s (i + 1) g) = some r := by
  rw [← upTo_turn_eq_some h]
  conv => lhs; rw [upTo]
  simp [Option.or_eq_some_iff]

theorem upTo_greedy_eq_some : upTo p.run true k none (atPlace s i g) = some r ↔
    (ok i ∧ upTo p.run true k none (atPlace s (i + 1) g) = some r) ∨
      (∀ r', ¬(ok i ∧ upTo p.run true k none (atPlace s (i + 1) g) = some r')) ∧
        k (atPlace s i g) = some r := by
  simp only [← upTo_turn_eq_some h]
  conv => lhs; rw [upTo]
  simp [Option.or_eq_some_iff, Option.eq_none_iff_forall_ne_some]

/-- A lazy loop stops at the first place where what follows matches. -/
theorem run_few_eq_some : (few p).run (atPlace s i g) k = some r ↔
    ∃ j, i ≤ j ∧ (∀ x, i ≤ x → x < j → ok x ∧ k (atPlace s x g) = none) ∧
      k (atPlace s j g) = some r := by
  rw [few, run_loop_zero]
  induction hn : s.length - i using Nat.strongRecOn generalizing i with
  | ind n ih =>
    rw [upTo_lazy_eq_some h]
    refine ⟨?_, ?_⟩
    · intro hd
      rcases hd with hk | ⟨hk, hi, hu⟩
      · exact ⟨i, Nat.le_refl i, fun x h1 h2 => absurd h1 (by omega), hk⟩
      · have := h.lt_length hi
        obtain ⟨j, hij, hj, hr⟩ := (ih _ (by omega) rfl).1 hu
        refine ⟨j, by omega, fun x h1 h2 => ?_, hr⟩
        rcases Nat.lt_or_eq_of_le h1 with hlt | rfl
        · exact hj x hlt h2
        · exact ⟨hi, hk⟩
    · intro hd
      obtain ⟨j, hij, hj, hr⟩ := hd
      rcases Nat.lt_or_eq_of_le hij with hlt | rfl
      · have hi := hj i (Nat.le_refl i) hlt
        have := h.lt_length hi.1
        exact .inr ⟨hi.2, hi.1, (ih _ (by omega) rfl).2
          ⟨j, hlt, fun x h1 h2 => hj x (by omega) h2, hr⟩⟩
      · exact .inl hr

/-- A greedy loop stops where its body fails, if what follows matches nowhere before. -/
theorem run_many_eq_some (hk : ∀ x, ok x → k (atPlace s x g) = none) :
    (many p).run (atPlace s i g) k = some r ↔
      ∃ j, i ≤ j ∧ (∀ x, i ≤ x → x < j → ok x) ∧ k (atPlace s j g) = some r := by
  rw [many, run_loop_zero]
  induction hn : s.length - i using Nat.strongRecOn generalizing i r with
  | ind n ih =>
    rw [upTo_greedy_eq_some h]
    refine ⟨?_, ?_⟩
    · intro hd
      rcases hd with ⟨hi, hu⟩ | ⟨-, hr⟩
      · have := h.lt_length hi
        obtain ⟨j, hij, hj, hr⟩ := (ih _ (by omega) rfl).1 hu
        refine ⟨j, by omega, fun x h1 h2 => ?_, hr⟩
        rcases Nat.lt_or_eq_of_le h1 with hlt | rfl
        · exact hj x hlt h2
        · exact hi
      · exact ⟨i, Nat.le_refl i, fun x h1 h2 => absurd h1 (by omega), hr⟩
    · intro hd
      obtain ⟨j, hij, hj, hr⟩ := hd
      rcases Nat.lt_or_eq_of_le hij with hlt | rfl
      · have hi := hj i (Nat.le_refl i) hlt
        have := h.lt_length hi
        exact .inl ⟨hi, (ih _ (by omega) rfl).2 ⟨j, hlt, fun x h1 h2 => hj x (by omega) h2, hr⟩⟩
      · refine .inr ⟨fun r' ⟨hi, _⟩ => ?_, hr⟩
        rw [hk i hi] at hr
        exact absurd hr (by simp)

end

end PatternLint.Pattern
