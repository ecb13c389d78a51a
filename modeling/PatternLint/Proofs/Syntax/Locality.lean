import PatternLint.Proofs.Syntax.Partition

/-! Items of completed lines do not depend on what follows. No delimiter holds a line feed, so in a
text that ends with one no delimiter is cut off; and a scan that stops before the end of the text
has seen its end. So a text behind the line feed is searched for items as if it stood alone. -/

namespace PatternLint

def Span.shift (n : Nat) (a : Span) : Span :=
  ⟨n + a.start, n + a.stop, Nat.add_le_add_left a.start_le_stop n⟩

def Syntax.Item.shift (n : Nat) (i : Item) : Item := ⟨i.kind, i.span.shift n⟩

/-- The last line of the text is completed. -/
def Text.EndsWithFeed (s : Text) : Prop := s.getLast? = some '\n'

namespace Text.EndsWithFeed

variable {s r lead : Text} {c : Char}

theorem ne_nil (h : EndsWithFeed s) : s ≠ [] := by
  intro hs
  simp [hs, EndsWithFeed] at h

theorem of_suffix (h : EndsWithFeed s) (hr : r <:+ s) (hne : r ≠ []) : EndsWithFeed r := by
  obtain ⟨u, rfl⟩ := hr
  simpa [EndsWithFeed, List.getLast?_append, List.getLast?_eq_some_getLast hne] using h

theorem of_cons (h : EndsWithFeed (c :: s)) (hc : c ≠ '\n') : EndsWithFeed s := by
  apply h.of_suffix (List.suffix_cons c s)
  intro hs
  simp [hs, EndsWithFeed, hc] at h

theorem getElem?_last (h : EndsWithFeed s) {x : Nat} (hx : x + 1 = s.length) :
    s[x]? = some '\n' := by
  rw [EndsWithFeed, List.getLast?_eq_getElem?, ← hx] at h
  exact h

theorem after?_append (h : EndsWithFeed s) (hlead : '\n' ∉ lead) (t : Text) :
    after? lead (s ++ t) = (after? lead s).map (· ++ t) := by
  induction lead generalizing s with
  | nil => rfl
  | cons p lead ih =>
    rw [List.mem_cons, not_or] at hlead
    cases s with
    | nil => exact absurd rfl h.ne_nil
    | cons c s =>
      simp only [List.cons_append, after?]
      split
      · rename_i hc
        exact ih (h.of_cons (hc ▸ Ne.symm hlead.1)) hlead.2
      · rfl

end Text.EndsWithFeed

namespace Syntax

open Text (EndsWithFeed)

variable {s t r : Text}

namespace Literal

theorem after?_closing_append (h : EndsWithFeed s) (o : Opening) (t : Text) :
    Text.after? o.closing (s ++ t) = (Text.after? o.closing s).map (· ++ t) := by
  refine h.after?_append ?_ t
  cases hq : o.quotes <;> simp [Opening.closing, Quotes.text, hq]

theorem after?_escape_append (h : EndsWithFeed s) (o : Opening) (t : Text) :
    Text.after? o.escape (s ++ t) = (Text.after? o.escape s).map (· ++ t) :=
  h.after?_append (by simp [Opening.escape]) t

theorem openingAfter?_append (h : EndsWithFeed s) (n : Nat) (t : Text) :
    openingAfter? n (s ++ t) = (openingAfter? n s).map fun (o, r) => (o, r ++ t) := by
  fun_induction openingAfter? n s with
  | case1 n s ih => exact ih (h.of_cons (by decide))
  | case2 n s => rfl
  | case3 n s hthree =>
    apply openingAfter?.eq_3 n (s ++ t)
    intro r hr
    match s, h.of_cons (by decide) with
    | [c], hfeed =>
      obtain ⟨rfl, -⟩ := List.cons.inj hr
      simp [EndsWithFeed] at hfeed
    | c :: d :: s, _ =>
      obtain ⟨rfl, htail⟩ := List.cons.inj hr
      obtain ⟨rfl, -⟩ := List.cons.inj htail
      exact hthree s rfl
  | case4 s n hhash hthree hone =>
    cases s with
    | nil => exact absurd rfl h.ne_nil
    | cons c s =>
      refine openingAfter?.eq_4 _ _ (fun r hr => ?_) (fun r hr => ?_) fun r hr => ?_
      · obtain ⟨rfl, -⟩ := List.cons.inj hr
        exact hhash s rfl
      · obtain ⟨rfl, -⟩ := List.cons.inj hr
        exact hone s rfl
      · obtain ⟨rfl, -⟩ := List.cons.inj hr
        exact hone s rfl

theorem opening?_append (h : EndsWithFeed s) (t : Text) :
    opening? (s ++ t) = (opening? s).map fun (o, r) => (o, r ++ t) :=
  openingAfter?_append h 0 t

/-- While a stack is open, more text is to come. -/
theorem endsWithFeed_of_afterAll {stack : List Frame} (h : EndsWithFeed s) (hs : r <:+ s)
    (hr : afterAll stack r ≠ []) : EndsWithFeed r := by
  apply h.of_suffix hs
  rintro rfl
  exact hr (afterAll_at_end stack)

/-- A stack that is closed before the end of a text is closed there whatever follows. -/
theorem afterAll_append {stack : List Frame} (h : EndsWithFeed s) (hr : afterAll stack s ≠ [])
    (t : Text) : afterAll stack (s ++ t) = afterAll stack s ++ t := by
  fun_induction afterAll stack s with
  | case1 s => rw [afterAll_nil]
  | case2 => exact absurd rfl hr
  | case3 o stack c s r hclosing ih =>
    have hc := after?_closing_append h o t
    rw [hclosing] at hc
    have hfeed := endsWithFeed_of_afterAll h (suffix_of_after? hclosing) hr
    exact (afterAll_closing hc).trans (ih hfeed hr)
  | case4 => exact absurd rfl hr
  | case5 o stack c s hclosing r hescape ih =>
    have hc := after?_closing_append h o t
    have he := after?_escape_append h o t
    rw [hclosing] at hc
    rw [hescape] at he
    have hs := (List.suffix_cons '(' r).trans (suffix_of_after? hescape)
    exact (afterAll_interpolation hc he).trans (ih (endsWithFeed_of_afterAll h hs hr) hr)
  | case6 o stack c s hclosing d r hescape hd ih =>
    have hc := after?_closing_append h o t
    have he := after?_escape_append h o t
    rw [hclosing] at hc
    rw [hescape] at he
    have hs := (List.suffix_cons d r).trans (suffix_of_after? hescape)
    exact (afterAll_escaped hc he hd).trans (ih (endsWithFeed_of_afterAll h hs hr) hr)
  | case7 o stack c s hclosing hescape hline ih =>
    obtain ⟨hquotes, rfl⟩ := hline
    have hc := after?_closing_append h o t
    have he := after?_escape_append h o t
    rw [hclosing] at hc
    rw [hescape] at he
    exact (afterAll_feed hc he hquotes).trans (ih h hr)
  | case8 o stack c s hclosing hescape hline ih =>
    have hc := after?_closing_append h o t
    have he := after?_escape_append h o t
    rw [hclosing] at hc
    rw [hescape] at he
    have hfeed := endsWithFeed_of_afterAll h (List.suffix_cons c s) hr
    exact (afterAll_plain hc he hline).trans (ih hfeed hr)
  | case9 stack c s o r hopening ih =>
    have ho := opening?_append h t
    rw [hopening] at ho
    have hfeed := endsWithFeed_of_afterAll h (suffix_of_opening? hopening) hr
    exact (afterAll_literal ho).trans (ih hfeed hr)
  | case10 stack s _ ih =>
    exact (afterAll_open _).trans (ih (endsWithFeed_of_afterAll h (List.suffix_cons '(' s) hr) hr)
  | case11 stack s _ _ ih =>
    exact (afterAll_close _).trans (ih (endsWithFeed_of_afterAll h (List.suffix_cons ')' s) hr) hr)
  | case12 stack c s hopening hnotOpen hnotClose ih =>
    have ho := opening?_append h t
    rw [hopening] at ho
    have hfeed := endsWithFeed_of_afterAll h (List.suffix_cons c s) hr
    exact (afterAll_code ho hnotOpen hnotClose).trans (ih hfeed hr)

theorem after?_append (h : EndsWithFeed s) (hs : after? s = some r) (hr : r ≠ []) (t : Text) :
    after? (s ++ t) = some (r ++ t) := by
  obtain ⟨⟨o, u⟩, ho, rfl⟩ := Option.map_eq_some_iff.1 hs
  rw [after?, opening?_append h, ho]
  have hu := endsWithFeed_of_afterAll h (suffix_of_opening? ho) hr
  exact congrArg some (afterAll_append hu hr t)

theorem after?_append_of_none (h : EndsWithFeed s) (hs : after? s = none) (t : Text) :
    after? (s ++ t) = none := by
  rw [after?, opening?_append h, Option.map_eq_none_iff.1 hs]
  rfl

end Literal

namespace Comment

theorem afterLine_append (hr : afterLine s ≠ []) (t : Text) :
    afterLine (s ++ t) = afterLine s ++ t := by
  unfold afterLine at *
  rw [List.dropWhile_append, if_neg (by simpa using hr)]

/-- A comment that is closed before the end of a text is closed there whatever follows. -/
theorem afterBlock_append {nested : Nat} (hr : afterBlock nested s ≠ []) (t : Text) :
    afterBlock nested (s ++ t) = afterBlock nested s ++ t := by
  fun_induction afterBlock nested s with
  | case1 => exact absurd rfl hr
  | case2 nested s ih => exact ih hr
  | case3 s => rfl
  | case4 s nested ih => exact ih hr
  | case5 nested c s hopen hclose ih =>
    cases s with
    | nil => exact absurd rfl hr
    | cons d s =>
      rw [List.cons_append, afterBlock.eq_5 nested c (d :: s ++ t), ih hr]
      · intro u hc hu
        obtain ⟨rfl, -⟩ := List.cons.inj hu
        exact hopen s hc rfl
      · intro u hc hu
        obtain ⟨rfl, -⟩ := List.cons.inj hu
        exact hclose s hc rfl

end Comment

variable {kind : Kind}

/-- Two characters at the start of a text that goes on after its line feed. -/
theorem eq_cons_cons_of_append {c d : Char} {u : Text} (h : EndsWithFeed s) (hc : c ≠ '\n')
    (hu : s ++ t = c :: d :: u) : ∃ v, s = c :: d :: v := by
  match s with
  | [] => exact absurd rfl h.ne_nil
  | [x] =>
    obtain ⟨rfl, -⟩ := List.cons.inj hu
    exact absurd rfl (h.of_cons hc).ne_nil
  | x :: y :: v =>
    obtain ⟨rfl, htail⟩ := List.cons.inj hu
    obtain ⟨rfl, -⟩ := List.cons.inj htail
    exact ⟨v, rfl⟩

theorem item?_append (h : EndsWithFeed s) (hs : item? s = some (kind, r)) (hr : r ≠ [])
    (t : Text) : item? (s ++ t) = some (kind, r ++ t) := by
  fun_cases item? s with
  | case1 s =>
    obtain ⟨rfl, rfl⟩ := Prod.mk.inj (Option.some.inj hs)
    exact congrArg (fun r => some (Kind.comment, r)) (Comment.afterLine_append hr t)
  | case2 s =>
    obtain ⟨rfl, rfl⟩ := Prod.mk.inj (Option.some.inj hs)
    exact congrArg (fun r => some (Kind.comment, r)) (Comment.afterBlock_append hr t)
  | case3 _ hline hblock =>
    rw [item?.eq_3 s hline hblock] at hs
    obtain ⟨u, hu, he⟩ := Option.map_eq_some_iff.1 hs
    obtain ⟨rfl, rfl⟩ := Prod.mk.inj he
    rw [item?.eq_3 (s ++ t), Literal.after?_append h hu hr t]
    · rfl
    · intro v hv
      obtain ⟨w, hw⟩ := eq_cons_cons_of_append h (by decide) hv
      exact hline w hw
    · intro v hv
      obtain ⟨w, hw⟩ := eq_cons_cons_of_append h (by decide) hv
      exact hblock w hw

theorem item?_append_of_none (h : EndsWithFeed s) (hs : item? s = none) (t : Text) :
    item? (s ++ t) = none := by
  fun_cases item? s with
  | case1 s => simp [item?] at hs
  | case2 s => simp [item?] at hs
  | case3 _ hline hblock =>
    rw [item?.eq_3 s hline hblock, Option.map_eq_none_iff] at hs
    rw [item?.eq_3 (s ++ t), Literal.after?_append_of_none h hs t]
    · rfl
    · intro v hv
      obtain ⟨w, hw⟩ := eq_cons_cons_of_append h (by decide) hv
      exact hline w hw
    · intro v hv
      obtain ⟨w, hw⟩ := eq_cons_cons_of_append h (by decide) hv
      exact hblock w hw

/-- The item at the start of a text, by the place at which it stops. -/
theorem itemsFrom_eq_cons {offset stop : Nat} (h : item? s = some (kind, r))
    (hle : offset ≤ stop) (hstop : stop + r.length = offset + s.length) :
    itemsFrom offset s = ⟨kind, ⟨offset, stop, hle⟩⟩ :: itemsFrom stop r := by
  cases s with
  | nil => exact absurd (length_item? h) (Nat.not_lt_zero _)
  | cons c s =>
    obtain rfl : stop = offset + ((c :: s).length - r.length) := by omega
    exact itemsFrom_of_some h

theorem itemsFrom_shift (n offset : Nat) (s : Text) :
    itemsFrom (n + offset) s = (itemsFrom offset s).map (Item.shift n) := by
  fun_induction itemsFrom offset s with
  | case1 offset => exact itemsFrom_nil _
  | case2 offset c s kind r h stop ih =>
    have hlt := length_item? h
    have hle : n + offset ≤ n + stop := by omega
    rw [List.map_cons, ← ih]
    exact itemsFrom_eq_cons h hle (by omega)
  | case3 offset c s h ih => rw [itemsFrom_of_none h, Nat.add_assoc, ih]

/-- The items of a text whose last line is completed come first, then those of what follows. -/
theorem itemsFrom_append {offset : Nat} (h : s ≠ [] → EndsWithFeed s)
    (hstop : ∀ i ∈ itemsFrom offset s, i.span.stop < offset + s.length) (t : Text) :
    itemsFrom offset (s ++ t) = itemsFrom offset s ++ itemsFrom (offset + s.length) t := by
  fun_induction itemsFrom offset s with
  | case1 offset => rfl
  | case2 offset c s kind r hr stop ih =>
    have hfeed := h (List.cons_ne_nil c s)
    have hlt := length_item? hr
    obtain ⟨hhead, htail⟩ := List.forall_mem_cons.1 hstop
    have hne : r ≠ [] := by
      rintro rfl
      simp only [stop, List.length_nil] at hhead
      omega
    have hlength : stop + r.length = offset + (c :: s).length := by omega
    have hlength' : stop + (r ++ t).length = offset + (c :: s ++ t).length := by
      rw [List.length_append, List.length_append, ← Nat.add_assoc, hlength, Nat.add_assoc]
    rw [← hlength] at htail ⊢
    rw [itemsFrom_eq_cons (item?_append hfeed hr hne t) (by omega) hlength',
      ih (hfeed.of_suffix (item?_suffix hr)) htail]
    rfl
  | case3 offset c s hn ih =>
    have hfeed := h (List.cons_ne_nil c s)
    have hlength : offset + 1 + s.length = offset + (c :: s).length := by
      rw [List.length_cons, Nat.add_assoc, Nat.add_comm 1]
    rw [← hlength] at hstop ⊢
    have hnone : item? (c :: (s ++ t)) = none := item?_append_of_none hfeed hn t
    rw [List.cons_append, itemsFrom_of_none hnone,
      ih (hfeed.of_suffix (List.suffix_cons c s)) hstop]

/-- Behind completed lines in which every item is closed, a text has the items that it has alone. -/
theorem classify_append {s : Text} (h : s.getLast? = some '\n')
    (hclosed : ∀ i ∈ (classify s).toList, i.span.stop < s.length) (t : Text) :
    (classify (s ++ t)).toList =
      (classify s).toList ++ (classify t).toList.map (Item.shift s.length) := by
  simp only [toList_classify, items] at hclosed ⊢
  rw [itemsFrom_append (fun _ => h) (by simpa using hclosed), Nat.zero_add, ← itemsFrom_shift,
    Nat.add_zero]

/-- A completed line with a comment and a literal, before a literal that is left open. -/
theorem classify_append_open_literal :
    let s := "/* a */ \"b\"\n".toList
    let t := "#\"c".toList
    s.getLast? = some '\n' ∧ (∀ i ∈ (classify s).toList, i.span.stop < s.length) ∧
      (classify (s ++ t)).toList =
        (classify s).toList ++ (classify t).toList.map (Item.shift s.length) := by
  intro s t
  have hclosed : ∀ i ∈ (classify s).toList, i.span.stop < s.length := by
    rw [toList_classify]
    decide +kernel
  exact ⟨by decide, hclosed, classify_append (by decide) hclosed t⟩

end Syntax

end PatternLint
