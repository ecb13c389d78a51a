import PatternLint.Proofs.Span
import PatternLint.Proofs.Text.Place

/-! Texts in which a carriage return stands before every line feed, and the places of the plain text
in them. A place keeps the character before it; the one behind it changes only where it is a line
feed. -/

namespace PatternLint.Text

/-- The text with every line feed as a carriage return and a line feed. -/
def crlf (s : Text) : Text := s.flatMap fun c => if c = '\n' then ['\r', '\n'] else [c]

/-- The place of `x` in the text with carriage returns: one further for each line feed before it. -/
def crlfPlace (s : Text) (x : Nat) : Nat := x + (s.take x).count '\n'

variable {s t w : Text} {c : Char} {a b x y : Nat}

@[simp] theorem crlf_nil : crlf [] = [] := rfl

@[simp] theorem crlf_feed (s : Text) : crlf ('\n' :: s) = '\r' :: '\n' :: crlf s := rfl

theorem crlf_cons (hc : c ≠ '\n') (s : Text) : crlf (c :: s) = c :: crlf s := by
  rw [crlf, List.flatMap_cons, if_neg hc]
  rfl

/-- A character that ends no line comes first in both texts. -/
theorem exists_of_crlf_eq_cons {r : Text} (h : crlf s = c :: r) (hreturn : c ≠ '\r') :
    ∃ t, s = c :: t ∧ crlf t = r := by
  cases s with
  | nil => simp at h
  | cons d s =>
    by_cases hd : d = '\n'
    · subst hd
      exact absurd (List.cons.inj h).1.symm hreturn
    · rw [crlf_cons hd] at h
      obtain ⟨rfl, hr⟩ := List.cons.inj h
      exact ⟨s, rfl, hr⟩

theorem crlf_append (s t : Text) : crlf (s ++ t) = crlf s ++ crlf t := List.flatMap_append

theorem length_crlf (s : Text) : (crlf s).length = s.length + s.count '\n' := by
  induction s with
  | nil => rfl
  | cons c s ih =>
    by_cases hc : c = '\n'
    · subst hc
      simp only [crlf_feed, List.length_cons, ih, List.count_cons_self]
      omega
    · rw [crlf_cons hc, List.length_cons, List.length_cons, ih, List.count_cons_of_ne hc]
      omega

/-- What follows a place is the same text, with its own carriage returns. -/
theorem drop_crlfPlace (s : Text) (x : Nat) : (crlf s).drop (crlfPlace s x) = crlf (s.drop x) := by
  rcases Nat.le_total x s.length with hle | hge
  · have hlength : (crlf (s.take x)).length = crlfPlace s x := by
      rw [length_crlf, List.length_take, Nat.min_eq_left hle, crlfPlace]
    have hsplit : crlf s = crlf (s.take x) ++ crlf (s.drop x) := by
      rw [← crlf_append, List.take_append_drop]
    rw [hsplit, ← hlength, List.drop_left]
  · rw [crlfPlace, List.take_of_length_le hge, List.drop_of_length_le hge]
    apply List.drop_of_length_le
    rw [length_crlf]
    omega

@[simp] theorem crlfPlace_zero (s : Text) : crlfPlace s 0 = 0 := by simp [crlfPlace]

theorem crlfPlace_length (s : Text) : crlfPlace s s.length = (crlf s).length := by
  rw [crlfPlace, List.take_length, length_crlf]

theorem crlfPlace_succ (s : Text) (x : Nat) :
    crlfPlace s (x + 1) = crlfPlace s x + if s[x]? = some '\n' then 2 else 1 := by
  rw [crlfPlace, crlfPlace, List.take_add_one, List.count_append]
  cases hx : s[x]? with
  | none => simp; omega
  | some c =>
    by_cases hc : c = '\n'
    · subst hc
      simp
      omega
    · simp [hc]
      omega

theorem crlfPlace_succ_of_feed (h : s[x]? = some '\n') :
    crlfPlace s (x + 1) = crlfPlace s x + 2 := by
  rw [crlfPlace_succ, if_pos h]

theorem crlfPlace_succ_of_ne (h : s[x]? ≠ some '\n') : crlfPlace s (x + 1) = crlfPlace s x + 1 := by
  rw [crlfPlace_succ, if_neg h]

theorem crlfPlace_lt_crlfPlace (h : x < y) : crlfPlace s x < crlfPlace s y := by
  induction y with
  | zero => omega
  | succ y ih =>
    have hstep : crlfPlace s y < crlfPlace s (y + 1) := by
      rw [crlfPlace_succ]
      split <;> omega
    rcases Nat.lt_or_eq_of_le (Nat.le_of_lt_succ h) with hlt | rfl
    · exact Nat.lt_trans (ih hlt) hstep
    · exact hstep

theorem crlfPlace_lt_iff : crlfPlace s x < crlfPlace s y ↔ x < y := by
  refine ⟨fun h => ?_, crlfPlace_lt_crlfPlace⟩
  apply Nat.lt_of_not_le
  intro hle
  rcases Nat.lt_or_eq_of_le hle with hlt | rfl
  · exact absurd (crlfPlace_lt_crlfPlace hlt) (Nat.not_lt.2 (Nat.le_of_lt h))
  · exact Nat.lt_irrefl _ h

theorem crlfPlace_le_iff : crlfPlace s x ≤ crlfPlace s y ↔ x ≤ y := by
  rw [← Nat.not_lt, ← Nat.not_lt, crlfPlace_lt_iff]

theorem crlfPlace_inj : crlfPlace s x = crlfPlace s y ↔ x = y := by
  rw [Nat.le_antisymm_iff, Nat.le_antisymm_iff, crlfPlace_le_iff, crlfPlace_le_iff]

theorem crlfPlace_add_length (h : x ≤ s.length) :
    crlfPlace s x + (crlf (s.drop x)).length = (crlf s).length := by
  have hle : crlfPlace s x ≤ (crlf s).length := by
    rw [← crlfPlace_length, crlfPlace_le_iff]
    exact h
  rw [← drop_crlfPlace, List.length_drop]
  omega

theorem getElem?_crlfPlace (s : Text) (x : Nat) :
    (crlf s)[crlfPlace s x]? = if s[x]? = some '\n' then some '\r' else s[x]? := by
  rw [← List.head?_drop, drop_crlfPlace, ← List.head?_drop]
  cases s.drop x with
  | nil => rfl
  | cons c r =>
    by_cases hc : c = '\n'
    · subst hc
      rfl
    · rw [crlf_cons hc]
      simp [hc]

theorem getElem?_crlfPlace_of_ne (h : s[x]? ≠ some '\n') : (crlf s)[crlfPlace s x]? = s[x]? := by
  rw [getElem?_crlfPlace, if_neg h]

theorem getElem?_crlfPlace_of_feed (h : s[x]? = some '\n') :
    (crlf s)[crlfPlace s x]? = some '\r' := by
  rw [getElem?_crlfPlace, if_pos h]

/-- The line feed itself stands behind the place of the line feed. -/
theorem getElem?_crlfPlace_succ (h : s[x]? = some '\n') :
    (crlf s)[crlfPlace s x + 1]? = some '\n' := by
  rw [← List.getElem?_drop, drop_crlfPlace, drop_eq_cons h]
  rfl

/-- The character before a place stays. -/
theorem getElem?_crlfPlace_pred (hx : 0 < x) : (crlf s)[crlfPlace s x - 1]? = s[x - 1]? := by
  obtain ⟨x, rfl⟩ := Nat.exists_eq_add_of_lt hx
  simp only [Nat.zero_add, Nat.add_sub_cancel]
  by_cases h : s[x]? = some '\n'
  · rw [crlfPlace_succ_of_feed h, h]
    exact getElem?_crlfPlace_succ h
  · rw [crlfPlace_succ_of_ne h]
    exact getElem?_crlfPlace_of_ne h

/-- Every place of the text with carriage returns is one of the plain text, or lies between a
carriage return and its line feed. -/
theorem exists_crlfPlace (s : Text) (y : Nat) :
    ∃ x, y = crlfPlace s x ∨ s[x]? = some '\n' ∧ y = crlfPlace s x + 1 := by
  induction y with
  | zero => exact ⟨0, .inl (crlfPlace_zero s).symm⟩
  | succ y ih =>
    obtain ⟨x, rfl | ⟨hfeed, rfl⟩⟩ := ih
    · by_cases h : s[x]? = some '\n'
      · exact ⟨x, .inr ⟨h, rfl⟩⟩
      · exact ⟨x + 1, .inl (crlfPlace_succ_of_ne h).symm⟩
    · exact ⟨x + 1, .inl (crlfPlace_succ_of_feed hfeed).symm⟩

/-- A character that ends no line stands at the place of the same character. -/
theorem exists_of_getElem?_crlf (h : (crlf s)[y]? = some c) (hreturn : c ≠ '\r')
    (hfeed : c ≠ '\n') : ∃ x, y = crlfPlace s x ∧ s[x]? = some c := by
  obtain ⟨x, rfl | ⟨hx, rfl⟩⟩ := exists_crlfPlace s y
  · refine ⟨x, rfl, ?_⟩
    rw [getElem?_crlfPlace] at h
    split at h
    · exact absurd (Option.some.inj h).symm hreturn
    · exact h
  · rw [getElem?_crlfPlace_succ hx] at h
    exact absurd (Option.some.inj h).symm hfeed

theorem getElem?_crlfPlace_eq_iff (hreturn : c ≠ '\r') (hfeed : c ≠ '\n') :
    (crlf s)[crlfPlace s x]? = some c ↔ s[x]? = some c := by
  rw [getElem?_crlfPlace]
  split
  · rename_i hx
    rw [hx]
    simp [hreturn.symm, hfeed.symm]
  · rfl

/-- What takes both characters of a line end alike holds of the same characters. -/
theorem any_getElem?_crlfPlace {p : Char → Bool} (hp : p '\r' = p '\n') (s : Text) (x : Nat) :
    (crlf s)[crlfPlace s x]?.any p = s[x]?.any p := by
  rw [getElem?_crlfPlace]
  split
  · rename_i hx
    rw [hx]
    exact hp
  · rfl

theorem forall_between_crlfPlace_iff {p : Char → Bool} (hp : p '\r' = p '\n') :
    (∀ y, crlfPlace s a ≤ y → y < crlfPlace s b → (crlf s)[y]?.any p) ↔
      ∀ x, a ≤ x → x < b → s[x]?.any p := by
  refine ⟨fun h x h1 h2 => ?_, fun h y h1 h2 => ?_⟩
  · rw [← any_getElem?_crlfPlace hp]
    exact h _ (crlfPlace_le_iff.2 h1) (crlfPlace_lt_iff.2 h2)
  · obtain ⟨x, rfl | ⟨hx, rfl⟩⟩ := exists_crlfPlace s y
    · rw [any_getElem?_crlfPlace hp]
      exact h x (crlfPlace_le_iff.1 h1) (crlfPlace_lt_iff.1 h2)
    · have hlt : x < b := (crlfPlace_lt_iff (s := s)).1 (by omega)
      have hle : a ≤ x := by
        apply Nat.le_of_lt_succ
        rw [← crlfPlace_lt_iff (s := s), crlfPlace_succ_of_feed hx]
        omega
      have hany := h x hle hlt
      rw [hx, Option.any_some, ← hp] at hany
      rw [getElem?_crlfPlace_succ hx, Option.any_some, ← hp]
      exact hany

theorem crlfPlace_add_of_holdsAt (h : s.HoldsAt x w) (hfeed : '\n' ∉ w) :
    crlfPlace s (x + w.length) = crlfPlace s x + w.length := by
  induction w generalizing x with
  | nil => rfl
  | cons c w ih =>
    obtain ⟨hc, hw⟩ := holdsAt_cons.1 h
    rw [List.mem_cons, not_or] at hfeed
    have hne : s[x]? ≠ some '\n' := by
      rw [hc]
      exact fun he => hfeed.1 (Option.some.inj he).symm
    rw [List.length_cons, Nat.add_comm w.length, ← Nat.add_assoc, ih hw hfeed.2,
      crlfPlace_succ_of_ne hne, Nat.add_assoc]

theorem holdsAt_crlfPlace_iff (hreturn : '\r' ∉ w) (hfeed : '\n' ∉ w) :
    (crlf s).HoldsAt (crlfPlace s x) w ↔ s.HoldsAt x w := by
  induction w generalizing x with
  | nil => simp
  | cons c w ih =>
    rw [List.mem_cons, not_or] at hreturn hfeed
    rw [holdsAt_cons, holdsAt_cons,
      getElem?_crlfPlace_eq_iff (Ne.symm hreturn.1) (Ne.symm hfeed.1)]
    apply and_congr_right
    intro hc
    have hne : s[x]? ≠ some '\n' := by
      rw [hc]
      exact fun he => hfeed.1 (Option.some.inj he).symm
    rw [← crlfPlace_succ_of_ne hne, ih hreturn.2 hfeed.2]

end PatternLint.Text

namespace PatternLint

/-- The range in the text with carriage returns. -/
def Span.inCrlf (s : Text) (a : Span) : Span :=
  ⟨s.crlfPlace a.start, s.crlfPlace a.stop, Text.crlfPlace_le_iff.2 a.start_le_stop⟩

end PatternLint
