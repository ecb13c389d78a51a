import PatternLint.Correction.Rewrite
import PatternLint.Proofs.Span
import PatternLint.Proofs.Text.Place

/-! Rewriting spans that follow one another: the pass over them splices the rewritten pieces into
the text, and every other character stays at its place. What fails in a way that is no refusal has
failed so in the library. -/

namespace PatternLint

namespace Rewrite

variable {dialect : Dialect} {rw : Rewrite} {compiled : Compiled} {expand : Expansion} {s : Text}
  {piece : Span → Text} {cursor offset : Nat} {a : Span} {spans rest : List Span}
  {f : Failure} {e : Unforeseen}

/-! ### The steps -/

theorem piece_of_read (h : rw.expansion compiled = .ok expand) :
    rw.piece compiled offset s =
      match compiled.matcher.search s 0 with
      | none => .error (.refused (.noOccurrence offset s))
      | some found =>
        let r := exchanged expand s found
        if r.length = s.length then .ok r
        else .error (.refused (.lengthChange offset s.length r.length)) := by
  rw [Rewrite.piece, h]
  cases compiled.matcher.search s 0 with
  | none => rfl
  | some found => rfl

theorem piece_of_unread (h : rw.expansion compiled = .error f) :
    rw.piece compiled offset s = .error f := by
  rw [Rewrite.piece, h]
  rfl

theorem onward_cons : rw.onward compiled s cursor (a :: rest) =
    if a.start < cursor then .error (.refused (.overlapping a.start))
    else if s.length < a.stop then .error (.refused (.outsideBuffer a s.length))
    else
      match rw.piece compiled a.start (s.slice a.start a.stop) with
      | .error f => .error f
      | .ok r =>
        match rw.onward compiled s a.stop rest with
        | .error f => .error f
        | .ok u => .ok (s.slice cursor a.start ++ r ++ u) := by
  rw [onward]
  split
  · rfl
  · split
    · rfl
    · cases rw.piece compiled a.start (s.slice a.start a.stop) with
      | error f => rfl
      | ok r => cases rw.onward compiled s a.stop rest <;> rfl

theorem apply_of_read (h : rw.compile dialect = .ok compiled) :
    rw.apply dialect s spans = rw.onward compiled s 0 (spans.mergeSort Span.sortsBefore) := by
  rw [apply, h]
  rfl

theorem apply_of_unread (h : rw.compile dialect = .error f) :
    rw.apply dialect s spans = .error f := by
  rw [apply, h]
  rfl

/-! ### Failures of the library -/

theorem expansion_of_piece (h : rw.piece compiled offset s = .error (.unforeseen e)) :
    rw.expansion compiled = .error (.unforeseen e) := by
  cases hexpand : rw.expansion compiled with
  | error f =>
    rw [piece_of_unread hexpand] at h
    exact congrArg Except.error (Except.error.inj h)
  | ok expand =>
    rw [piece_of_read hexpand] at h
    split at h
    · cases h
    · dsimp only at h
      split at h <;> cases h

theorem expansion_of_onward (h : rw.onward compiled s cursor spans = .error (.unforeseen e)) :
    rw.expansion compiled = .error (.unforeseen e) := by
  induction spans generalizing cursor with
  | nil => cases h
  | cons a rest ih =>
    rw [onward_cons] at h
    split at h
    · cases h
    · split at h
      · cases h
      · split at h
        · rename_i hpiece
          exact expansion_of_piece (hpiece.trans h)
        · split at h
          · rename_i hrest
            exact ih (hrest.trans h)
          · cases h

theorem unread_of_apply (h : rw.apply dialect s spans = .error (.unforeseen e)) :
    rw.compile dialect = .error (.unforeseen e) ∨
      ∃ compiled, rw.compile dialect = .ok compiled ∧
        rw.expansion compiled = .error (.unforeseen e) := by
  cases hcompile : rw.compile dialect with
  | error f =>
    rw [apply_of_unread hcompile] at h
    exact .inl (congrArg Except.error (Except.error.inj h))
  | ok compiled =>
    rw [apply_of_read hcompile] at h
    exact .inr ⟨compiled, rfl, expansion_of_onward h⟩

/-! ### Spans that follow one another -/

/-- The text from `cursor` on, with a piece in place of each span. -/
def spliced (s : Text) (piece : Span → Text) (cursor : Nat) : List Span → Text
  | [] => s.drop cursor
  | a :: rest => s.slice cursor a.start ++ piece a ++ spliced s piece a.stop rest

theorem onward_eq_ok (h : Span.Apart spans) (hcursor : ∀ a ∈ spans, cursor ≤ a.start)
    (hstop : ∀ a ∈ spans, a.stop ≤ s.length)
    (hpiece : ∀ a ∈ spans, rw.piece compiled a.start (s.slice a.start a.stop) = .ok (piece a)) :
    rw.onward compiled s cursor spans = .ok (spliced s piece cursor spans) := by
  induction spans generalizing cursor with
  | nil => rfl
  | cons a rest ih =>
    obtain ⟨ha, hrest⟩ := List.pairwise_cons.1 h
    have hc := hcursor a List.mem_cons_self
    have hs := hstop a List.mem_cons_self
    have htail := ih hrest ha (fun b hb => hstop b (List.mem_cons_of_mem a hb))
      fun b hb => hpiece b (List.mem_cons_of_mem a hb)
    rw [onward_cons, if_neg (Nat.not_lt.2 hc), if_neg (Nat.not_lt.2 hs)]
    simp only [hpiece a List.mem_cons_self, htail]
    rfl

section
variable {i : Nat}

/-! A splice is what is kept before the first span, its piece, and the splice of the rest. -/

theorem getElem?_spliced_before (hstop : a.stop ≤ s.length) (h1 : cursor ≤ i) (h2 : i < a.start) :
    (spliced s piece cursor (a :: rest))[i - cursor]? = s[i]? := by
  have hkept : (s.slice cursor a.start).length = a.start - cursor :=
    Text.length_slice (Nat.le_trans a.start_le_stop hstop)
  rw [spliced, List.append_assoc, List.getElem?_append_left (by omega), Text.getElem?_slice,
    if_pos (by omega), Nat.add_sub_cancel' h1]

theorem getElem?_spliced_inside (hcursor : cursor ≤ a.start) (hstop : a.stop ≤ s.length)
    (hwidth : (piece a).length = a.stop - a.start) (h1 : a.start ≤ i) (h2 : i < a.stop) :
    (spliced s piece cursor (a :: rest))[i - cursor]? = (piece a)[i - a.start]? := by
  have hkept : (s.slice cursor a.start).length = a.start - cursor :=
    Text.length_slice (Nat.le_trans a.start_le_stop hstop)
  rw [spliced, List.append_assoc, List.getElem?_append_right (by omega), hkept,
    List.getElem?_append_left (by omega)]
  congr 1
  omega

theorem getElem?_spliced_after (hcursor : cursor ≤ a.start) (hstop : a.stop ≤ s.length)
    (hwidth : (piece a).length = a.stop - a.start) (hi : a.stop ≤ i) :
    (spliced s piece cursor (a :: rest))[i - cursor]? =
      (spliced s piece a.stop rest)[i - a.stop]? := by
  have hle := a.start_le_stop
  have hkept : (s.slice cursor a.start).length = a.start - cursor :=
    Text.length_slice (Nat.le_trans hle hstop)
  rw [spliced, List.getElem?_append_right (by simp only [List.length_append]; omega),
    List.length_append, hkept, hwidth]
  congr 1
  omega

end

/-- A character of the splice, where every piece has the width of its span. -/
theorem getElem?_spliced (h : Span.Apart spans) (hcursor : ∀ a ∈ spans, cursor ≤ a.start)
    (hstop : ∀ a ∈ spans, a.stop ≤ s.length)
    (hwidth : ∀ a ∈ spans, (piece a).length = a.stop - a.start) (i : Nat) :
    (∀ a ∈ spans, a.start ≤ i → i < a.stop →
      (spliced s piece cursor spans)[i - cursor]? = (piece a)[i - a.start]?) ∧
    (cursor ≤ i → ¬Covered spans i → (spliced s piece cursor spans)[i - cursor]? = s[i]?) := by
  induction spans generalizing cursor with
  | nil =>
    refine ⟨by simp, fun hi _ => ?_⟩
    rw [spliced, List.getElem?_drop, Nat.add_sub_cancel' hi]
  | cons a rest ih =>
    obtain ⟨ha, hrest⟩ := List.pairwise_cons.1 h
    have hc := hcursor a List.mem_cons_self
    have hs := hstop a List.mem_cons_self
    have hw := hwidth a List.mem_cons_self
    obtain ⟨hin, hout⟩ := ih hrest ha (fun b hb => hstop b (List.mem_cons_of_mem a hb))
      fun b hb => hwidth b (List.mem_cons_of_mem a hb)
    refine ⟨fun b hb h1 h2 => ?_, fun hi hn => ?_⟩
    · rcases List.mem_cons.1 hb with rfl | hb
      · exact getElem?_spliced_inside hc hs hw h1 h2
      · have hab := ha b hb
        rw [getElem?_spliced_after hc hs hw (by omega), hin b hb h1 h2]
    · rcases Nat.lt_or_ge i a.start with hlt | hge
      · exact getElem?_spliced_before hs hi hlt
      · have hge' : a.stop ≤ i := Nat.le_of_not_lt fun hlt =>
          hn ⟨a, List.mem_cons_self, hge, hlt⟩
        rw [getElem?_spliced_after hc hs hw hge',
          hout hge' fun ⟨b, hb, hbi⟩ => hn ⟨b, List.mem_cons_of_mem a hb, hbi⟩]

/-- If each piece has so many fewer of a character than its span, and so many more, the splice has
as many for each span. -/
theorem count_spliced {c : Char} {less more : Nat} (h : Span.Apart spans)
    (hcursor : ∀ a ∈ spans, cursor ≤ a.start)
    (hpiece : ∀ a ∈ spans, (piece a).count c + less = (s.slice a.start a.stop).count c + more) :
    (spliced s piece cursor spans).count c + less * spans.length =
      (s.drop cursor).count c + more * spans.length := by
  induction spans generalizing cursor with
  | nil => simp [spliced]
  | cons a rest ih =>
    obtain ⟨ha, hrest⟩ := List.pairwise_cons.1 h
    have htail := ih hrest ha fun b hb => hpiece b (List.mem_cons_of_mem a hb)
    have hfirst := hpiece a List.mem_cons_self
    have hdrop : s.drop cursor =
        s.slice cursor a.start ++ (s.slice a.start a.stop ++ s.drop a.stop) := by
      rw [Text.slice_append_drop a.start_le_stop,
        Text.slice_append_drop (hcursor a List.mem_cons_self)]
    rw [spliced, hdrop]
    simp only [List.count_append, List.length_cons, Nat.mul_succ]
    omega

end Rewrite

end PatternLint
