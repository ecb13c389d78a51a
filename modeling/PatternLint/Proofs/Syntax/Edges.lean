import PatternLint.Proofs.Syntax.Scan
import PatternLint.Proofs.Text.Place

/-! Where items begin and end. An item begins exactly where a delimiter opens one. It ends with the
text, before a line feed, or behind a delimiter that closes it; so the characters at its edges are
never letters. -/

namespace PatternLint.Syntax

/-- An item of the kind opens at place `i`. -/
def OpensAt (s : Text) (i : Nat) : Kind → Prop
  | .comment => s.HoldsAt i "//".toList ∨ s.HoldsAt i "/*".toList
  | .string => ∃ hashes, s.HoldsAt i (List.replicate hashes '#' ++ ['"'])

/-- The characters at which items begin and end. -/
def edges : Text := ['/', '"', '#']

theorem mem_edges_iff {c : Char} : c ∈ edges ↔ c = '/' ∨ c = '"' ∨ c = '#' := by
  simp [edges]

/-- What follows an item of `s`: nothing, a line feed, or what stands behind `closing`. -/
def Ends (closing s r : Text) : Prop :=
  r = [] ∨ r.head? = some '\n' ∧ r <:+ s ∨ closing ++ r <:+ s

section
variable {closing s t r : Text}

theorem Ends.mono (h : Ends closing s r) (hs : s <:+ t) : Ends closing t r := by
  rcases h with h | ⟨h, hr⟩ | h
  · exact .inl h
  · exact .inr (.inl ⟨h, hr.trans hs⟩)
  · exact .inr (.inr (h.trans hs))

theorem Ends.suffix (h : Ends closing s r) : r <:+ s := by
  rcases h with rfl | ⟨-, h⟩ | h
  · exact List.nil_suffix
  · exact h
  · exact (List.suffix_append closing r).trans h

theorem suffix_of_after? {lead : Text} (h : Text.after? lead s = some r) : r <:+ s := by
  rw [Text.after?_eq_some.1 h]
  exact List.suffix_append lead r

end

namespace Literal

variable {s r : Text} {o : Opening}

theorem openingAfter?_isSome_iff (n : Nat) (s : Text) :
    (openingAfter? n s).isSome ↔ ∃ hashes, List.replicate hashes '#' ++ ['"'] <+: s := by
  fun_induction openingAfter? n s with
  | case1 n s ih =>
    rw [ih]
    refine ⟨?_, ?_⟩
    · rintro ⟨hashes, h⟩
      exact ⟨hashes + 1, List.cons_prefix_cons.2 ⟨rfl, h⟩⟩
    · rintro ⟨hashes, h⟩
      cases hashes with
      | zero => simp at h
      | succ hashes => exact ⟨hashes, (List.cons_prefix_cons.1 h).2⟩
  | case2 n s => exact ⟨fun _ => ⟨0, by simp⟩, fun _ => rfl⟩
  | case3 n s h => exact ⟨fun _ => ⟨0, by simp⟩, fun _ => rfl⟩
  | case4 n s hhash hthree hone =>
    refine ⟨by simp, ?_⟩
    rintro ⟨hashes, r, hr⟩
    cases hashes with
    | zero => exact absurd hr.symm (hone r)
    | succ hashes => exact absurd hr.symm (hhash _)

theorem not_opening_slash (hashes : Nat) (s : Text) :
    ¬List.replicate hashes '#' ++ ['"'] <+: '/' :: s := by
  cases hashes <;> simp [List.replicate_succ]

theorem suffix_of_openingAfter? {n : Nat} (h : openingAfter? n s = some (o, r)) : r <:+ s := by
  fun_induction openingAfter? n s with
  | case1 n s ih => exact (ih h).trans (List.suffix_cons '#' s)
  | case2 n s =>
    obtain rfl := (Prod.mk.inj (Option.some.inj h)).2
    exact List.suffix_append ['"', '"', '"'] s
  | case3 n s hs =>
    obtain rfl := (Prod.mk.inj (Option.some.inj h)).2
    exact List.suffix_cons '"' s
  | case4 => simp at h

theorem suffix_of_opening? (h : opening? s = some (o, r)) : r <:+ s :=
  suffix_of_openingAfter? h

/-- A closing delimiter ends with a hash or a quote. -/
theorem edge_closing (o : Opening) : ∃ c ∈ edges, [c] <:+ o.closing := by
  cases hn : o.hashes with
  | zero =>
    refine ⟨'"', by decide, ?_⟩
    cases hq : o.quotes <;> simp [Opening.closing, Quotes.text, hn, hq, List.suffix_cons_iff]
  | succ n =>
    refine ⟨'#', by decide, ?_⟩
    rw [Opening.closing, hn, List.replicate_succ']
    exact (List.suffix_append _ _).trans (List.suffix_append _ _)

/-- The outermost literal of a stack is the one whose end is the end of all. -/
theorem afterAll_ends {stack : List Frame} (h : stack.getLast? = some (.body o)) :
    Ends o.closing s (afterAll stack s) := by
  fun_induction afterAll stack s with
  | case1 => simp at h
  | case2 => exact .inl rfl
  | case3 o' stack c s r hr ih =>
    cases stack with
    | nil =>
      obtain rfl : o' = o := by simpa using h
      rw [afterAll_nil]
      exact .inr (.inr (Text.after?_eq_some.1 hr ▸ List.suffix_rfl))
    | cons f stack => exact (ih (by simpa using h)).mono (suffix_of_after? hr)
  | case4 => exact .inl rfl
  | case5 o' stack c s _ r hr ih =>
    refine (ih (by simpa using h)).mono ?_
    exact (List.suffix_cons '(' r).trans (suffix_of_after? hr)
  | case6 o' stack c s _ d r hr _ ih =>
    exact (ih h).mono ((List.suffix_cons d r).trans (suffix_of_after? hr))
  | case7 o' stack c s _ _ hline ih =>
    obtain ⟨-, rfl⟩ := hline
    cases stack with
    | nil =>
      rw [afterAll_nil]
      exact .inr (.inl ⟨rfl, List.suffix_rfl⟩)
    | cons f stack => exact ih (by simpa using h)
  | case8 o' stack c s _ _ _ ih => exact (ih h).mono (List.suffix_cons c s)
  | case9 stack c s o' r hr ih =>
    exact (ih (by simpa using h)).mono (suffix_of_opening? hr)
  | case10 stack s _ ih => exact (ih (by simpa using h)).mono (List.suffix_cons '(' s)
  | case11 stack s _ _ ih =>
    cases stack with
    | nil => simp at h
    | cons f stack => exact (ih (by simpa using h)).mono (List.suffix_cons ')' s)
  | case12 stack c s _ _ _ ih => exact (ih h).mono (List.suffix_cons c s)

theorem after?_isSome_iff (s : Text) :
    (after? s).isSome ↔ ∃ hashes, List.replicate hashes '#' ++ ['"'] <+: s := by
  rw [after?, Option.isSome_map]
  exact openingAfter?_isSome_iff 0 s

theorem after?_ends (h : after? s = some r) : ∃ o, Ends (Opening.closing o) s r := by
  obtain ⟨⟨o, t⟩, ho, rfl⟩ := Option.map_eq_some_iff.1 h
  exact ⟨o, (afterAll_ends (by simp)).mono (suffix_of_opening? ho)⟩

end Literal

namespace Comment

theorem afterLine_ends (closing s : Text) : Ends closing s (afterLine s) := by
  cases h : afterLine s with
  | nil => exact .inl rfl
  | cons c r =>
    have hc : c = '\n' := by
      have := List.head?_dropWhile_not (· ≠ '\n') s
      simp only [afterLine] at h
      rw [h] at this
      simpa using this
    exact .inr (.inl ⟨by rw [hc]; rfl, h ▸ List.dropWhile_suffix _⟩)

theorem afterBlock_ends (nested : Nat) (s : Text) :
    Ends ['*', '/'] s (afterBlock nested s) := by
  fun_induction afterBlock nested s with
  | case1 => exact .inl rfl
  | case2 nested s ih => exact ih.mono (List.suffix_append ['/', '*'] s)
  | case3 s => exact .inr (.inr List.suffix_rfl)
  | case4 s nested ih => exact ih.mono (List.suffix_append ['*', '/'] s)
  | case5 nested c s _ _ ih => exact ih.mono (List.suffix_cons c s)

end Comment

section
variable {s r : Text} {i : Nat} {kind : Kind}

theorem item?_isSome_iff (s : Text) (i : Nat) :
    (∃ r, item? (s.drop i) = some (kind, r)) ↔ OpensAt s i kind := by
  unfold OpensAt Text.HoldsAt
  generalize s.drop i = u
  fun_cases item? u with
  | case1 u => cases kind <;> simp [Literal.not_opening_slash]
  | case2 u => cases kind <;> simp [Literal.not_opening_slash]
  | case3 _ hline hblock =>
    cases kind with
    | comment =>
      refine ⟨by simp, ?_⟩
      rintro (⟨r, hr⟩ | ⟨r, hr⟩)
      · exact absurd hr.symm (hline r)
      · exact absurd hr.symm (hblock r)
    | string =>
      dsimp only
      rw [← Literal.after?_isSome_iff, Option.isSome_iff_exists]
      simp

/-- An item ends with the text, before a line feed, or behind a character of a delimiter. -/
theorem item?_ends (h : item? s = some (kind, r)) :
    ∃ closing, Ends closing s r ∧ ∃ c ∈ edges, [c] <:+ closing := by
  fun_cases item? s with
  | case1 s =>
    obtain rfl := (Prod.mk.inj (Option.some.inj h)).2
    refine ⟨['/'], (Comment.afterLine_ends _ s).mono ?_, '/', by decide, List.suffix_rfl⟩
    exact List.suffix_append ['/', '/'] s
  | case2 s =>
    obtain rfl := (Prod.mk.inj (Option.some.inj h)).2
    refine ⟨['*', '/'], (Comment.afterBlock_ends 0 s).mono ?_, '/', by decide, by decide⟩
    exact List.suffix_append ['/', '*'] s
  | case3 _ hline hblock =>
    rw [item?.eq_3 s hline hblock] at h
    obtain ⟨t, ht, he⟩ := Option.map_eq_some_iff.1 h
    obtain rfl := (Prod.mk.inj he).2
    obtain ⟨o, ho⟩ := Literal.after?_ends ht
    exact ⟨_, ho, Literal.edge_closing o⟩

theorem OpensAt.edge (h : OpensAt s i kind) : ∃ c ∈ edges, s[i]? = some c := by
  cases kind with
  | comment =>
    rcases h with h | h
    · exact ⟨'/', by decide, (Text.holdsAt_cons.1 h).1⟩
    · exact ⟨'/', by decide, (Text.holdsAt_cons.1 h).1⟩
  | string =>
    obtain ⟨hashes, h⟩ := h
    cases hashes with
    | zero => exact ⟨'"', by decide, (Text.holdsAt_cons.1 h).1⟩
    | succ hashes => exact ⟨'#', by decide, (Text.holdsAt_cons.1 h).1⟩

/-- What follows an item on its line follows a character of a delimiter. -/
theorem item?_edge (h : item? s = some (kind, r)) (hr : r ≠ []) (hfeed : r.head? ≠ some '\n') :
    ∃ c ∈ edges, c :: r <:+ s := by
  obtain ⟨closing, hends, c, hc, lead, rfl⟩ := item?_ends h
  rcases hends with rfl | ⟨hhead, -⟩ | hs
  · exact absurd rfl hr
  · exact absurd hhead hfeed
  · rw [List.append_assoc] at hs
    exact ⟨c, hc, (List.suffix_append lead (c :: r)).trans hs⟩

theorem item?_suffix (h : item? s = some (kind, r)) : r <:+ s := by
  obtain ⟨closing, hends, -⟩ := item?_ends h
  exact hends.suffix

end

end PatternLint.Syntax
