import PatternLint.Proofs.Syntax.Scan
import PatternLint.Source

/-! What the search for items sees of a text. It tells apart only the delimiters of comments and
literals; any other character might be a space. So every scanner commutes with this view, and texts
of one view have the same items, and the same lines. -/

namespace PatternLint

namespace Syntax

/-- The characters that begin, end or escape. -/
def delimiters : Text := ['/', '*', '#', '"', '\\', '(', ')', '\n']

def seen (c : Char) : Char := if c ∈ delimiters then c else ' '

theorem seen_of_mem {c : Char} (h : c ∈ delimiters) : seen c = c := if_pos h

theorem seen_eq_iff {c m : Char} (hm : m ∈ delimiters) : seen c = m ↔ c = m := by
  unfold seen
  split
  · rfl
  · rename_i hc
    refine ⟨?_, ?_⟩
    · intro h
      obtain rfl := h
      exact absurd hm (by decide)
    · intro h
      obtain rfl := h
      exact absurd hm hc

theorem map_seen_eq_cons_iff {m : Char} {s r : Text} (hm : m ∈ delimiters) :
    s.map seen = m :: r ↔ ∃ t, s = m :: t ∧ t.map seen = r := by
  rw [List.map_eq_cons_iff]
  refine ⟨?_, ?_⟩
  · intro h
    obtain ⟨c, t, rfl, hc, ht⟩ := h
    exact ⟨t, by rw [(seen_eq_iff hm).1 hc], ht⟩
  · intro h
    obtain ⟨t, rfl, ht⟩ := h
    exact ⟨m, t, rfl, seen_of_mem hm, ht⟩

theorem after?_map_seen {lead : Text} (h : ∀ m ∈ lead, m ∈ delimiters) (s : Text) :
    Text.after? lead (s.map seen) = (Text.after? lead s).map (·.map seen) := by
  induction lead generalizing s with
  | nil => rfl
  | cons m lead ih =>
    obtain ⟨hm, hlead⟩ := List.forall_mem_cons.1 h
    cases s with
    | nil => rfl
    | cons c s =>
      simp only [List.map_cons, Text.after?, eq_comm (a := m), seen_eq_iff hm, ih hlead]
      split
      · rfl
      · rfl

namespace Literal

theorem mem_delimiters_of_hashes {m : Char} {n : Nat} (h : m ∈ List.replicate n '#') :
    m ∈ delimiters := by
  rw [List.eq_of_mem_replicate h]
  decide

theorem after?_closing_map_seen (o : Opening) (s : Text) :
    Text.after? o.closing (s.map seen) = (Text.after? o.closing s).map (·.map seen) := by
  refine after?_map_seen (fun m hm => ?_) s
  rcases List.mem_append.1 hm with hm | hm
  · obtain rfl : m = '"' := by cases h : o.quotes <;> simpa [Quotes.text, h] using hm
    decide
  · exact mem_delimiters_of_hashes hm

theorem after?_escape_map_seen (o : Opening) (s : Text) :
    Text.after? o.escape (s.map seen) = (Text.after? o.escape s).map (·.map seen) := by
  refine after?_map_seen (fun m hm => ?_) s
  rcases List.mem_cons.1 hm with rfl | hm
  · decide
  · exact mem_delimiters_of_hashes hm

theorem openingAfter?_map_seen (n : Nat) (s : Text) :
    openingAfter? n (s.map seen) = (openingAfter? n s).map fun (o, r) => (o, r.map seen) := by
  fun_induction openingAfter? n s with
  | case1 n s ih => exact ih
  | case2 n s => rfl
  | case3 n s h =>
    apply openingAfter?.eq_3 n (s.map seen)
    intro r hr
    obtain ⟨t, rfl, ht⟩ := (map_seen_eq_cons_iff (by decide)).1 hr
    obtain ⟨t, rfl, -⟩ := (map_seen_eq_cons_iff (by decide)).1 ht
    exact h t rfl
  | case4 n s hhash hthree hone =>
    refine openingAfter?.eq_4 _ _ (fun r hr => ?_) (fun r hr => ?_) fun r hr => ?_
    · obtain ⟨t, rfl, -⟩ := (map_seen_eq_cons_iff (by decide)).1 hr
      exact hhash t rfl
    · obtain ⟨t, rfl, -⟩ := (map_seen_eq_cons_iff (by decide)).1 hr
      exact hone t rfl
    · obtain ⟨t, rfl, -⟩ := (map_seen_eq_cons_iff (by decide)).1 hr
      exact hone t rfl

theorem opening?_map_seen (s : Text) :
    opening? (s.map seen) = (opening? s).map fun (o, r) => (o, r.map seen) :=
  openingAfter?_map_seen 0 s

/-- Whatever is open, it is closed at the same place. -/
theorem afterAll_map_seen (stack : List Frame) (s : Text) :
    afterAll stack (s.map seen) = (afterAll stack s).map seen := by
  have hopen : '(' ∈ delimiters := by decide
  have hclose : ')' ∈ delimiters := by decide
  have hfeed : '\n' ∈ delimiters := by decide
  fun_induction afterAll stack s with
  | case1 s => rw [afterAll_nil]
  | case2 f stack => rw [List.map_nil, afterAll_at_end]
  | case3 o stack c s r hclosing ih =>
    have hc := after?_closing_map_seen o (c :: s)
    rw [hclosing] at hc
    exact (afterAll_closing hc).trans ih
  | case4 o stack c s hclosing hescape =>
    have hc := after?_closing_map_seen o (c :: s)
    have he := after?_escape_map_seen o (c :: s)
    rw [hclosing] at hc
    rw [hescape] at he
    exact afterAll_escape_end hc he
  | case5 o stack c s hclosing r hescape ih =>
    have hc := after?_closing_map_seen o (c :: s)
    have he := after?_escape_map_seen o (c :: s)
    rw [hclosing] at hc
    rw [hescape] at he
    exact (afterAll_interpolation hc he).trans ih
  | case6 o stack c s hclosing d r hescape hd ih =>
    have hc := after?_closing_map_seen o (c :: s)
    have he := after?_escape_map_seen o (c :: s)
    rw [hclosing] at hc
    rw [hescape] at he
    exact (afterAll_escaped hc he (mt (seen_eq_iff hopen).1 hd)).trans ih
  | case7 o stack c s hclosing hescape hline ih =>
    obtain ⟨hquotes, rfl⟩ := hline
    have hc := after?_closing_map_seen o ('\n' :: s)
    have he := after?_escape_map_seen o ('\n' :: s)
    rw [hclosing] at hc
    rw [hescape] at he
    exact (afterAll_feed hc he hquotes).trans ih
  | case8 o stack c s hclosing hescape hline ih =>
    have hc := after?_closing_map_seen o (c :: s)
    have he := after?_escape_map_seen o (c :: s)
    rw [hclosing] at hc
    rw [hescape] at he
    rw [← seen_eq_iff hfeed] at hline
    exact (afterAll_plain hc he hline).trans ih
  | case9 stack c s o r hopening ih =>
    have ho := opening?_map_seen (c :: s)
    rw [hopening] at ho
    exact (afterAll_literal ho).trans ih
  | case10 stack s _ ih => exact (afterAll_open _).trans ih
  | case11 stack s _ _ ih => exact (afterAll_close _).trans ih
  | case12 stack c s hopening hnotOpen hnotClose ih =>
    have ho := opening?_map_seen (c :: s)
    rw [hopening] at ho
    exact (afterAll_code ho (mt (seen_eq_iff hopen).1 hnotOpen)
      (mt (seen_eq_iff hclose).1 hnotClose)).trans ih

theorem after?_map_seen (s : Text) : after? (s.map seen) = (after? s).map (·.map seen) := by
  rw [after?, after?, opening?_map_seen, Option.map_map, Option.map_map]
  refine congrArg (fun f => (opening? s).map f) (funext fun (o, r) => ?_)
  exact afterAll_map_seen [.body o] r

end Literal

namespace Comment

theorem afterLine_map_seen (s : Text) : afterLine (s.map seen) = (afterLine s).map seen := by
  have hfeed : '\n' ∈ delimiters := by decide
  rw [afterLine, afterLine, List.dropWhile_map]
  congr 2
  funext c
  simp only [Function.comp_apply, ne_eq, seen_eq_iff hfeed]

theorem afterBlock_map_seen (nested : Nat) (s : Text) :
    afterBlock nested (s.map seen) = (afterBlock nested s).map seen := by
  have hslash : '/' ∈ delimiters := by decide
  have hstar : '*' ∈ delimiters := by decide
  fun_induction afterBlock nested s with
  | case1 nested => rfl
  | case2 nested s ih => exact ih
  | case3 s => rfl
  | case4 s nested ih => exact ih
  | case5 nested c s hopen hclose ih =>
    rw [List.map_cons, afterBlock.eq_5 nested (seen c) (s.map seen), ih]
    · intro r hc hr
      obtain ⟨t, rfl, -⟩ := (map_seen_eq_cons_iff hstar).1 hr
      exact hopen t ((seen_eq_iff hslash).1 hc) rfl
    · intro r hc hr
      obtain ⟨t, rfl, -⟩ := (map_seen_eq_cons_iff hslash).1 hr
      exact hclose t ((seen_eq_iff hstar).1 hc) rfl

end Comment

theorem item?_map_seen (s : Text) :
    item? (s.map seen) = (item? s).map fun (kind, r) => (kind, r.map seen) := by
  have hslash : '/' ∈ delimiters := by decide
  have hstar : '*' ∈ delimiters := by decide
  fun_cases item? s with
  | case1 s => exact congrArg (fun r => some (Kind.comment, r)) (Comment.afterLine_map_seen s)
  | case2 s => exact congrArg (fun r => some (Kind.comment, r)) (Comment.afterBlock_map_seen 0 s)
  | case3 _ hline hblock =>
    rw [item?.eq_3 (s.map seen), Literal.after?_map_seen, Option.map_map, Option.map_map]
    · rfl
    · intro r hr
      obtain ⟨t, rfl, ht⟩ := (map_seen_eq_cons_iff hslash).1 hr
      obtain ⟨t, rfl, -⟩ := (map_seen_eq_cons_iff hslash).1 ht
      exact hline t rfl
    · intro r hr
      obtain ⟨t, rfl, ht⟩ := (map_seen_eq_cons_iff hslash).1 hr
      obtain ⟨t, rfl, -⟩ := (map_seen_eq_cons_iff hstar).1 ht
      exact hblock t rfl

/-- The search finds the same items, whatever stands where no delimiter is. -/
theorem itemsFrom_map_seen (offset : Nat) (s : Text) :
    itemsFrom offset (s.map seen) = itemsFrom offset s := by
  fun_induction itemsFrom offset s with
  | case1 offset => exact itemsFrom_nil offset
  | case2 offset c s kind r h stop ih =>
    have h' := item?_map_seen (c :: s)
    rw [h] at h'
    rw [List.map_cons, itemsFrom_of_some h']
    simp only [List.length_cons, List.length_map]
    exact congrArg _ ih
  | case3 offset c s h ih =>
    have h' := item?_map_seen (c :: s)
    rw [h] at h'
    rw [List.map_cons, itemsFrom_of_none h']
    exact ih

theorem items_eq_of_map_seen {s t : Text} (h : s.map seen = t.map seen) : items s = items t := by
  rw [items, ← itemsFrom_map_seen, h, itemsFrom_map_seen, items]

theorem lineStartsFrom_map_seen (offset : Nat) (s : Text) :
    lineStartsFrom offset (s.map seen) = lineStartsFrom offset s := by
  have hfeed : '\n' ∈ delimiters := by decide
  induction s generalizing offset with
  | nil => rfl
  | cons c s ih =>
    simp only [List.map_cons, lineStartsFrom, seen_eq_iff hfeed, ih]

end Syntax

end PatternLint
