import PatternLint.Proofs.Declaration.Form
import PatternLint.Proofs.Pattern.Loop
import PatternLint.Proofs.Span

/-! The pattern of a declaration matches at a place exactly when a declaration of the stated form
begins there, and then takes its extent and its tail. Each piece of the pattern is read off its
run; the loops over blanks are followed by a character that is none, so they cannot give back. -/

namespace PatternLint.Declaration

open Pattern State
open Region (isGap)

variable {s : Text} {i : Nat} {g : List (Nat × Span)} {k : Continuation} {r : State}

theorem has_gap :
    CharClass.has { items := [.range ' ' ' ', .range '\t' '\t'] } = isGap := by
  funext c
  have h (d : Char) : inRange d d c = decide (c = d) := by
    have := has_single d c
    simp only [CharClass.has, CharClass.single, List.any_cons, CharClass.itemHas,
      Bool.false_eq_true, if_false, List.any_nil, Bool.or_false, Bool.bne_false] at this
    rw [Bool.eq_iff_iff, this, decide_eq_true_iff]
  simp [CharClass.has, CharClass.itemHas, h, isGap]

theorem single_blank : Single blank s fun x => s[x]?.any isBlank := by
  have h := single_chars (.ofCategory .blank) s
  rwa [has_blank] at h

theorem single_gap :
    Single (chars { items := [.range ' ' ' ', .range '\t' '\t'] }) s fun x => s[x]?.any isGap := by
  have h := single_chars { items := [.range ' ' ' ', .range '\t' '\t'] } s
  rwa [has_gap] at h

theorem not_holdsAt_let (h : s.HoldsAt i "var".toList) : ¬s.HoldsAt i "let".toList := by
  intro hlet
  have hv := (Text.holdsAt_cons.1 h).1
  rw [(Text.holdsAt_cons.1 hlet).1] at hv
  exact absurd (Option.some.inj hv) (by decide)

theorem run_declarator_eq_some : declarator.run (atPlace s i g) k = some r ↔
    DeclaratorAt s i ∧ k (atPlace s (i + 5) g) = some r := by
  have hvar {k : Continuation} {r : State} :
      (ofText "var".toList).run (atPlace s (i + 1) g) k = some r ↔
        s.HoldsAt (i + 1) "var".toList ∧ k (atPlace s (i + 4) g) = some r := run_ofText_eq_some
  have hlet {k : Continuation} {r : State} :
      (ofText "let".toList).run (atPlace s (i + 1) g) k = some r ↔
        s.HoldsAt (i + 1) "let".toList ∧ k (atPlace s (i + 4) g) = some r := run_ofText_eq_some
  change blank.run (atPlace s i g) (fun t => (alt _ _).run t fun t => blank.run t k) = some r ↔ _
  rw [single_blank.run_eq_some, run_alt_eq_some, Option.eq_none_iff_forall_ne_some, DeclaratorAt,
    and_assoc]
  apply and_congr_right
  intro _
  simp only [ne_eq, hvar, hlet, single_blank.run_eq_some]
  have hne := not_holdsAt_let (s := s) (i := i + 1)
  generalize s.HoldsAt (i + 1) "var".toList = isVar at *
  generalize s.HoldsAt (i + 1) "let".toList = isLet at *
  by_cases h : isVar
  · simp [h, hne h]
  · simp [h, and_assoc]

theorem run_not_declarator_eq_some : (ahead false declarator).run (atPlace s i g) k = some r ↔
    ¬DeclaratorAt s i ∧ k (atPlace s i g) = some r := by
  rw [run_ahead_false_eq_some, Option.eq_none_iff_forall_ne_some]
  simp only [ne_eq, run_declarator_eq_some, not_and]
  refine and_congr_left fun _ => ⟨fun h hd => h _ hd rfl, fun h r hd => absurd hd h⟩

theorem single_within (set : CharClass) :
    Single (within set) s fun x => s[x]?.any set.has ∧ ¬DeclaratorAt s (x + 1) where
  run_eq_some {i g k r} := by
    rw [within, run_seq_eq, run_chars_eq_some, run_not_declarator_eq_some, and_assoc]
  lt_length h := (single_chars set s).lt_length h.1

theorem run_lineEnd_eq_some : lineEnd.run (atPlace s i g) k = some r ↔
    (s[i]? = some '\r' ∧ s[i + 1]?.all (· == '\n') = true ∧ k (atPlace s (i + 1) g) = some r) ∨
      ((∀ r', ¬(s[i]? = some '\r' ∧ s[i + 1]?.all (· == '\n') = true ∧
          k (atPlace s (i + 1) g) = some r')) ∧
        s[i]?.all (· == '\n') = true ∧ k (atPlace s i g) = some r) := by
  rw [lineEnd, run_seq_eq, run_optional_eq, Option.or_eq_some_iff,
    Option.eq_none_iff_forall_ne_some]
  simp only [ne_eq, run_char_eq_some, run_anchor_eq_some, Anchor.holds, head?_rest_atPlace]

theorem all_newline_iff {o : Option Char} :
    o.all (· == '\n') = true ↔ o = none ∨ o = some '\n' := by
  cases o <;> simp

/-- Looking for the end of a line takes no text and no group. -/
theorem run_ahead_lineEnd_eq_some : (ahead true lineEnd).run (atPlace s i g) k = some r ↔
    EndsLine s i ∧ k (atPlace s i g) = some r := by
  have hg {t : State} (h : lineEnd.run (atPlace s i g) some = some t) :
      EndsLine s i ∧ t.groups = g := by
    rw [run_lineEnd_eq_some, all_newline_iff, all_newline_iff] at h
    obtain ⟨h1, h2, h3⟩ | ⟨-, h2, h3⟩ := h
    · exact ⟨.inr (.inr ⟨h1, h2⟩), by rw [← Option.some.inj h3]; rfl⟩
    · exact ⟨h2.elim .inl fun h => .inr (.inl h), by rw [← Option.some.inj h3]; rfl⟩
  have he (h : EndsLine s i) : lineEnd.run (atPlace s i g) some ≠ none := by
    intro hn
    rw [Option.eq_none_iff_forall_ne_some] at hn
    simp only [ne_eq, run_lineEnd_eq_some, all_newline_iff, Option.some.injEq] at hn
    obtain h | h | ⟨h1, h2⟩ := h
    · exact hn _ (.inr ⟨by simp [h], .inl h, rfl⟩)
    · exact hn _ (.inr ⟨by simp [h], .inr h, rfl⟩)
    · exact hn _ (.inl ⟨h1, h2, rfl⟩)
  rw [Pattern.run]
  cases hl : lineEnd.run (atPlace s i g) some with
  | none =>
    refine ⟨fun h => absurd h (by simp), fun h => absurd hl (he h.1)⟩
  | some t =>
    obtain ⟨hs, hgt⟩ := hg hl
    dsimp only
    rw [if_pos rfl, hgt]
    exact (and_iff_right hs).symm

theorem not_isBlank_equals : isBlank '=' = false := by decide

theorem not_isBlank_n : isBlank 'n' = false := by decide

theorem ne_of_any_isBlank {o : Option Char} {c : Char} (h : o.any isBlank = true)
    (hc : isBlank c = false) : o ≠ some c := by
  intro hr
  obtain rfl := hr
  simp [hc] at h

/-- The pieces of a tail, if what follows cannot begin with one more space or tab. -/
theorem run_tail_eq_some
    (hk : ∀ x, s[x]?.any isGap = true → k (atPlace s x g) = none) :
    tail.run (atPlace s i g) k = some r ↔
      ∃ b d e, Assigns s i b d e ∧ k (atPlace s e g) = some r := by
  have hnil {x : Nat} {r : State} :
      ((ofText "nil".toList).run (atPlace s x g) fun t => (many (chars
        { items := [.range ' ' ' ', .range '\t' '\t'] })).run t k) = some r ↔
      s.HoldsAt x "nil".toList ∧ ∃ e, x + 3 ≤ e ∧
        (∀ y, x + 3 ≤ y → y < e → s[y]?.any isGap = true) ∧ k (atPlace s e g) = some r := by
    rw [run_ofText_eq_some]
    exact and_congr_right fun _ => run_many_eq_some single_gap hk
  have hmid {x : Nat} {r : State} :
      ((many blank).run (atPlace s x g) fun t => (ofText "nil".toList).run t fun t =>
        (many (chars { items := [.range ' ' ' ', .range '\t' '\t'] })).run t k) = some r ↔ _ :=
    run_many_eq_some single_blank fun y hy => Option.eq_none_iff_forall_ne_some.2 fun r hr =>
      ne_of_any_isBlank hy not_isBlank_n (Text.holdsAt_cons.1 (hnil.1 hr).1).1
  have hfirst {x : Nat} {r : State} :
      ((many blank).run (atPlace s x g) fun t => (char '=').run t fun t =>
        (many blank).run t fun t => (ofText "nil".toList).run t fun t =>
          (many (chars { items := [.range ' ' ' ', .range '\t' '\t'] })).run t k) = some r ↔ _ :=
    run_many_eq_some single_blank fun y hy => Option.eq_none_iff_forall_ne_some.2 fun r hr =>
      ne_of_any_isBlank hy not_isBlank_equals (run_char_eq_some.1 hr).1
  change ((many blank).run (atPlace s i g) fun t => (char '=').run t fun t =>
    (many blank).run t fun t => (ofText "nil".toList).run t fun t =>
      (many (chars { items := [.range ' ' ' ', .range '\t' '\t'] })).run t k) = some r ↔ _
  rw [hfirst]
  simp only [run_char_eq_some, hmid, hnil]
  refine ⟨?_, ?_⟩
  · intro hx
    obtain ⟨b, hb, hbefore, heq, d, hd, hbetween, hn, e, he, hafter, hr⟩ := hx
    exact ⟨b, d, e, ⟨hb, hd, he, hbefore, heq, fun x h1 h2 => hbetween x h1 h2, hn, hafter⟩, hr⟩
  · intro hx
    obtain ⟨b, d, e, h, hr⟩ := hx
    exact ⟨b, h.le, h.before, h.equals, d, h.lt, fun x h1 h2 => h.between x h1 h2, h.holds_nil,
      e, h.nil_le, h.after, hr⟩

theorem Reads.le {a e : Nat} (h : Reads s a e) : a ≤ e := by
  obtain ⟨b, d, h⟩ := h
  have := h.le
  have := h.lt
  have := h.nil_le
  omega

theorem EndsLine.not_gap (h : EndsLine s i) : ¬s[i]?.any isGap := by
  obtain h | h | ⟨h, -⟩ := h <;> simp [h, isGap]

theorem run_group_tail_eq_some :
    ((group 1 tail).run (atPlace s i g) fun t => (seq (ahead true lineEnd) empty).run t some) =
      some r ↔ ∃ e, Reads s i e ∧ r = atPlace s e ((1, .between i e) :: g) := by
  have hend {x : Nat} {g' : List (Nat × Span)} {r : State} :
      (seq (ahead true lineEnd) empty).run (atPlace s x g') some = some r ↔
        EndsLine s x ∧ r = atPlace s x g' := by
    rw [run_seq_eq, run_ahead_lineEnd_eq_some]
    exact and_congr_right fun _ => Option.some_inj.trans eq_comm
  change (tail.run (atPlace s i g) fun t => (seq (ahead true lineEnd) empty).run (t.capture 1 i)
    some) = some r ↔ _
  rw [run_tail_eq_some]
  · simp only [capture_atPlace, hend]
    refine ⟨?_, ?_⟩
    · intro hd
      obtain ⟨b, d, e, h, he, hr⟩ := hd
      exact ⟨e, ⟨b, d, h, he.not_gap, he⟩, hr⟩
    · intro hd
      obtain ⟨e, ⟨b, d, h⟩, hr⟩ := hd
      exact ⟨b, d, e, h.toAssigns, h.endsLine, hr⟩
  · intro x hx
    rw [capture_atPlace, Option.eq_none_iff_forall_ne_some]
    exact fun r hr => (hend.1 hr).1.not_gap hx

/-- From the character after the colon on: the first question mark with a tail, if no declarator
stands before it. -/
theorem run_type_eq_some {c : Nat} :
    ((few (within .all)).run (atPlace s (c + 1) g) fun t => (char '?').run t fun t =>
      (group 1 tail).run t fun t => (seq (ahead true lineEnd) empty).run t some) = some r ↔
      ∃ q e, SignAt s (Reads s) c q e ∧ (∀ x e', SignAt s (Reads s) c x e' → q ≤ x) ∧
        r = atPlace s e ((1, .between (q + 1) e) :: g) := by
  rw [run_few_eq_some (single_within _)]
  simp only [Option.eq_none_iff_forall_ne_some, ne_eq, run_char_eq_some, run_group_tail_eq_some]
  refine ⟨?_, ?_⟩
  · intro h
    obtain ⟨q, hq, hbefore, hsign, e, hread, hr⟩ := h
    have hu : Unbroken s (c + 1) q := fun x h1 h2 => (hbefore x h1 h2).1.2
    refine ⟨q, e, ⟨hq, hsign, hread, hu⟩, fun x e' hx => ?_, hr⟩
    refine Nat.le_of_not_lt fun hlt => (hbefore x hx.lt hlt).2 _ ⟨hx.sign, e', hx.tail, rfl⟩
  · intro h
    obtain ⟨q, e, hq, hleast, hr⟩ := h
    refine ⟨q, hq.lt, fun x h1 h2 => ⟨⟨?_, hq.unbroken x h1 h2⟩, ?_⟩, hq.sign, e, hq.tail, hr⟩
    · have hlt := Nat.lt_trans h2 (List.getElem?_eq_some_iff.1 hq.sign).1
      simp [List.getElem?_eq_getElem hlt]
    · intro r' h
      obtain ⟨hx, e', ht, -⟩ := h
      have hu : Unbroken s (c + 1) x := fun y h3 h4 => hq.unbroken y h3 (by omega)
      exact absurd (hleast x e' ⟨h1, hx, ht, hu⟩) (Nat.not_le.2 h2)

/-- From the character after the keyword on, the name ends at the first colon. -/
theorem run_name_eq_some {p : Nat} :
    ((few (within (.butNot ':'))).run (atPlace s (p + 3) g) fun t => (char ':').run t k) = some r ↔
      ∃ c, NameEndsAt s p c ∧ k (atPlace s (c + 1) g) = some r := by
  rw [run_few_eq_some (single_within _)]
  simp only [Option.eq_none_iff_forall_ne_some, ne_eq, run_char_eq_some]
  refine ⟨?_, ?_⟩
  · intro hd
    obtain ⟨c, hc, hbefore, hcolon, hr⟩ := hd
    refine ⟨c, ⟨hc, hcolon, fun x h1 h2 hx => ?_, fun x h1 h2 => (hbefore x h1 h2).1.2⟩, hr⟩
    have := (hbefore x h1 h2).1.1
    simp [hx] at this
  · intro hd
    obtain ⟨c, h, hr⟩ := hd
    refine ⟨c, h.le, fun x h1 h2 => ⟨⟨?_, h.unbroken x h1 h2⟩, ?_⟩, h.colon, hr⟩
    · have hlt := Nat.lt_trans h2 (List.getElem?_eq_some_iff.1 h.colon).1
      have hne := h.first x h1 h2
      rw [List.getElem?_eq_getElem hlt] at hne ⊢
      simpa using hne
    · exact fun r' hr' => h.first x h1 h2 hr'.1

theorem wordEdge_before_iff {c : Char} (hc : s[i]? = some c) (hw : isWord c = true) :
    Anchor.wordEdge.holds (atPlace s i g) = true ↔ i = 0 ∨ ¬s[i - 1]?.any isWord := by
  rw [Anchor.holds, before_atPlace, head?_rest_atPlace, hc, Option.any_some, hw]
  split
  · simp [*]
  · cases s[i - 1]?.any isWord <;> simp [*]

theorem wordEdge_after_iff {c : Char} (hi : i ≠ 0) (hc : s[i - 1]? = some c)
    (hw : isWord c = true) :
    Anchor.wordEdge.holds (atPlace s i g) = true ↔ ¬s[i]?.any isWord := by
  rw [Anchor.holds, before_atPlace, head?_rest_atPlace, if_neg hi, hc, Option.any_some, hw]
  cases s[i]?.any isWord <;> simp

theorem run_keyword_eq_some {p : Nat} :
    ((anchor .wordEdge).run (atPlace s p g) fun t => (ofText "var".toList).run t fun t =>
      (anchor .wordEdge).run t k) = some r ↔
      KeywordAt s p ∧ k (atPlace s (p + 3) g) = some r := by
  rw [run_anchor_eq_some, run_ofText_eq_some, run_anchor_eq_some]
  refine ⟨?_, ?_⟩
  · intro hd
    obtain ⟨hbefore, hvar, hafter, hr⟩ := hd
    have hv := (Text.holdsAt_cons.1 hvar).1
    have hr' := (Text.holdsAt_cons.1 (Text.holdsAt_cons.1 (Text.holdsAt_cons.1 hvar).2).2).1
    exact ⟨⟨hvar, (wordEdge_before_iff hv (by decide)).1 hbefore,
      (wordEdge_after_iff (i := p + 3) (by omega) hr' (by decide)).1 hafter⟩, hr⟩
  · intro hd
    obtain ⟨h, hr⟩ := hd
    have hv := (Text.holdsAt_cons.1 h.holds).1
    have hr' := (Text.holdsAt_cons.1 (Text.holdsAt_cons.1 (Text.holdsAt_cons.1 h.holds).2).2).1
    exact ⟨(wordEdge_before_iff hv (by decide)).2 h.before, h.holds,
      (wordEdge_after_iff (i := p + 3) (by omega) hr' (by decide)).2 h.after, hr⟩

theorem run_pattern_eq_some {p : Nat} : pattern.run (atPlace s p []) some = some r ↔
    ∃ c q e, KeywordAt s p ∧ NameEndsAt s p c ∧ SignAt s (Reads s) c q e ∧
      (∀ x e', SignAt s (Reads s) c x e' → q ≤ x) ∧
      r = atPlace s e [(1, .between (q + 1) e)] := by
  change ((anchor .wordEdge).run (atPlace s p []) fun t => (ofText "var".toList).run t fun t =>
    (anchor .wordEdge).run t fun t => (few (within (.butNot ':'))).run t fun t =>
      (char ':').run t fun t => (few (within .all)).run t fun t => (char '?').run t fun t =>
        (group 1 tail).run t fun t => (seq (ahead true lineEnd) empty).run t some) = some r ↔ _
  rw [run_keyword_eq_some, run_name_eq_some]
  simp only [run_type_eq_some]
  refine ⟨?_, ?_⟩
  · intro h
    obtain ⟨hk, c, hn, q, e, hs, hl, hr⟩ := h
    exact ⟨c, q, e, hk, hn, hs, hl, hr⟩
  · intro h
    obtain ⟨c, q, e, hk, hn, hs, hl, hr⟩ := h
    exact ⟨hk, c, hn, q, e, hs, hl, hr⟩

theorem matchAt_eq_some_iff {p : Nat} {f : Found} :
    regex.matcher.matchAt s p = some f ↔
      ∃ m, Declares s (Reads s) p m ∧ f = ⟨m.extent, [(1, m.span)]⟩ := by
  change (pattern.run (atPlace s p []) some).map _ = some f ↔ _
  rw [Option.map_eq_some_iff]
  refine ⟨?_, ?_⟩
  · intro hr
    obtain ⟨t, ht, rfl⟩ := hr
    obtain ⟨c, q, e, hk, hn, hs, hl, rfl⟩ := run_pattern_eq_some.1 ht
    have hqe := hs.tail.le
    have hpq := Nat.lt_of_le_of_lt (Nat.le_trans (Nat.le_add_right p 3) hn.le) hs.lt
    refine ⟨⟨.between (q + 1) e, .between p e⟩, ⟨c, q, hk, hn, ?_, hl, ?_, ?_, ?_⟩, rfl⟩
    · rwa [Span.stop_between (by omega)]
    · exact Span.start_between (by omega)
    · exact Span.start_between (by omega)
    · rw [Span.stop_between (by omega), Span.stop_between (by omega)]
  · intro hr
    obtain ⟨m, ⟨c, q, h⟩, rfl⟩ := hr
    have hpq := Nat.lt_of_le_of_lt (Nat.le_trans (Nat.le_add_right p 3) h.name.le) h.sign.lt
    refine ⟨_, run_pattern_eq_some.2 ⟨c, q, _, h.keyword, h.name, h.sign, h.least, rfl⟩, ?_⟩
    have hqe := h.sign.tail.le
    simp only [place_atPlace, groups_atPlace, Found.mk.injEq]
    refine ⟨?_, ?_⟩
    · have hle : p ≤ m.span.stop := by omega
      exact Span.eq_of_bounds ((Span.start_between hle).trans h.extent_start.symm)
        ((Span.stop_between hle).trans h.extent_stop.symm)
    · have hspan : Span.between (q + 1) m.span.stop = m.span :=
        Span.eq_of_bounds ((Span.start_between hqe).trans h.span_start.symm) (Span.stop_between hqe)
      rw [hspan]

end PatternLint.Declaration
