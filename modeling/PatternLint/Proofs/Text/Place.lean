import PatternLint.Text.Basic

/-! What a text holds at a place, and the characters of its slices by place. -/

namespace PatternLint.Text

variable {s w : Text} {i a b : Nat}

/-- The text `w` stands at place `i`. -/
def HoldsAt (s : Text) (i : Nat) (w : Text) : Prop := w <+: s.drop i

instance : Decidable (HoldsAt s i w) := inferInstanceAs (Decidable (w <+: s.drop i))

@[simp] theorem holdsAt_nil : HoldsAt s i [] := List.nil_prefix

@[simp] theorem holdsAt_cons {c : Char} :
    HoldsAt s i (c :: w) ↔ s[i]? = some c ∧ HoldsAt s (i + 1) w := by
  unfold HoldsAt
  rcases Nat.lt_or_ge i s.length with h | h
  · rw [List.drop_eq_getElem_cons h, List.cons_prefix_cons, List.getElem?_eq_getElem h,
      Option.some.injEq, eq_comm]
  · simp [List.drop_eq_nil_of_le h, h]

/-- A text stands at a place when its characters stand there one by one. -/
theorem holdsAt_iff : HoldsAt s i w ↔ ∀ x, x < w.length → s[i + x]? = w[x]? := by
  induction w generalizing i with
  | nil => simp
  | cons c w ih =>
    rw [holdsAt_cons, ih]
    refine ⟨?_, ?_⟩
    · intro hr x hx
      obtain ⟨hc, hw⟩ := hr
      cases x with
      | zero => exact hc
      | succ x =>
        rw [List.getElem?_cons_succ, ← hw x (Nat.lt_of_succ_lt_succ hx)]
        congr 1
        omega
    · intro h
      refine ⟨h 0 (Nat.succ_pos _), fun x hx => ?_⟩
      have := h (x + 1) (Nat.succ_lt_succ hx)
      rw [List.getElem?_cons_succ] at this
      rw [← this]
      congr 1
      omega

theorem holdsAt_append {v : Text} :
    HoldsAt s i (v ++ w) ↔ HoldsAt s i v ∧ HoldsAt s (i + v.length) w := by
  induction v generalizing i with
  | nil => simp
  | cons c v ih => simp [ih, and_assoc, Nat.add_assoc, Nat.add_comm 1]

theorem holdsAt_drop {x : Nat} : HoldsAt (s.drop i) x w ↔ HoldsAt s (i + x) w := by
  rw [HoldsAt, HoldsAt, List.drop_drop]

theorem HoldsAt.isInfix (h : HoldsAt s i w) : w <:+: s :=
  List.IsInfix.trans (List.IsPrefix.isInfix h) (List.drop_suffix i s).isInfix

theorem HoldsAt.congr {t : Text} {j : Nat} (h : HoldsAt s i w)
    (ht : ∀ x, x < w.length → t[j + x]? = s[i + x]?) : HoldsAt t j w :=
  holdsAt_iff.2 fun x hx => (ht x hx).trans (holdsAt_iff.1 h x hx)

theorem HoldsAt.exists_mem {x : Nat} (h : HoldsAt s i w) (h1 : i ≤ x) (h2 : x < i + w.length) :
    ∃ c ∈ w, s[x]? = some c := by
  have hx : x - i < w.length := by omega
  refine ⟨w[x - i], List.getElem_mem hx, ?_⟩
  rw [← List.getElem?_eq_getElem hx, ← holdsAt_iff.1 h (x - i) hx, Nat.add_sub_cancel' h1]

theorem HoldsAt.length_le (h : HoldsAt s i w) (hw : w ≠ []) : i + w.length ≤ s.length := by
  have hle := List.IsPrefix.length_le h
  have hpos := List.length_pos_iff.2 hw
  rw [List.length_drop] at hle
  omega

/-- The character before a place is the one that stands before the rest of the text. -/
theorem getElem?_of_cons_suffix {c : Char} (hi : i ≤ s.length) (h : c :: s.drop i <:+ s) :
    s[i - 1]? = some c := by
  have hle := h.length_le
  have hdrop := List.suffix_iff_eq_drop.1 h
  rw [List.length_cons, List.length_drop] at hle hdrop
  have hbefore : s.length - (s.length - i + 1) = i - 1 := by omega
  rw [hbefore] at hdrop
  rw [← List.head?_drop, ← hdrop, List.head?_cons]

theorem drop_eq_cons {c : Char} (h : s[i]? = some c) : s.drop i = c :: s.drop (i + 1) := by
  obtain ⟨hi, rfl⟩ := List.getElem?_eq_some_iff.1 h
  exact List.drop_eq_getElem_cons hi

theorem after?_drop_of_holdsAt (h : s.HoldsAt i w) :
    after? w (s.drop i) = some (s.drop (i + w.length)) := by
  obtain ⟨r, hr⟩ := h
  rw [after?_eq_some, ← List.drop_drop, ← hr, List.drop_left]

theorem after?_drop_eq_none_iff : after? w (s.drop i) = none ↔ ¬s.HoldsAt i w := by
  rw [Option.eq_none_iff_forall_ne_some]
  simp only [ne_eq, after?_eq_some]
  refine ⟨?_, ?_⟩
  · rintro h ⟨r, hr⟩
    exact h r hr.symm
  · rintro h r hr
    exact h ⟨r, hr.symm⟩

theorem getElem?_slice (s : Text) (a b i : Nat) :
    (slice s a b)[i]? = if i < b - a then s[a + i]? else none := by
  rw [slice, List.getElem?_take, List.getElem?_drop]

theorem length_slice (hb : b ≤ s.length) : (slice s a b).length = b - a := by
  rw [slice, List.length_take, List.length_drop]
  omega

/-- Slices are equal when the texts agree between their ends. -/
theorem slice_congr {t : Text} (h : ∀ i, a ≤ i → i < b → s[i]? = t[i]?) :
    slice s a b = slice t a b := by
  refine List.ext_getElem? fun i => ?_
  rw [getElem?_slice, getElem?_slice]
  split
  · exact h _ (by omega) (by omega)
  · rfl

theorem slice_append_drop (h : a ≤ b) :
    s.slice a b ++ s.drop b = s.drop a := by
  have hb : s.drop b = (s.drop a).drop (b - a) := by rw [List.drop_drop, Nat.add_sub_cancel' h]
  rw [slice, hb, List.take_append_drop]

theorem HoldsAt.append_drop (h : s.HoldsAt i w) :
    w ++ s.drop (i + w.length) = s.drop i := by
  obtain ⟨r, hr⟩ := h
  rw [← List.drop_drop, ← hr, List.drop_left]

theorem of_mem_slice {p : Char → Bool}
    (h : ∀ x, a ≤ x → x < b → s[x]?.any p = true) : ∀ c ∈ s.slice a b, p c = true := by
  intro c hc
  obtain ⟨i, hi⟩ := List.mem_iff_getElem?.1 hc
  rw [getElem?_slice] at hi
  split at hi
  · have := h (a + i) (by omega) (by omega)
    rwa [hi] at this
  · simp at hi

end PatternLint.Text
