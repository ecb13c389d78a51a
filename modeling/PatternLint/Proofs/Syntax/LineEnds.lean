import Mathlib.Data.List.Forall2
import PatternLint.Proofs.Syntax.Locality
import PatternLint.Proofs.Text.Crlf

/-! Comments and literals of a text with carriage returns before its line feeds. No delimiter holds
a character of a line end, so a scan goes through both texts alike, with one exception: an escape
takes one character, and where that is a line feed, the literal runs on to the next line, while with
carriage returns the escape takes the return and the line ends a literal of one quote. Main
statement: where no such escape is met, the items are the same, except that one which ends before a
line feed may hold the carriage return as well. -/

namespace PatternLint.Syntax

open Text (crlf crlfPlace)

variable {s t r : Text} {c : Char}

theorem after?_crlf {lead : Text} (hreturn : '\r' ∉ lead) (hfeed : '\n' ∉ lead) (s : Text) :
    Text.after? lead (crlf s) = (Text.after? lead s).map crlf := by
  induction lead generalizing s with
  | nil => rfl
  | cons m lead ih =>
    rw [List.mem_cons, not_or] at hreturn hfeed
    cases s with
    | nil => rfl
    | cons c s =>
      by_cases hc : c = '\n'
      · subst hc
        simp [Text.after?, Ne.symm hreturn.1, Ne.symm hfeed.1]
      · rw [Text.crlf_cons hc, Text.after?, Text.after?]
        split
        · exact ih hreturn.2 hfeed.2 s
        · rfl

/-- What follows an item in the text with carriage returns, if `s` follows it in the plain text: the
first carriage return may belong to the item. -/
def AfterCrlf (s t : Text) : Prop := t = crlf s ∨ ∃ r, s = '\n' :: r ∧ t = '\n' :: crlf r

namespace Literal

variable {o : Opening} {stack : List Frame}

/-- While the frames of a stack are open, no escape in a literal of one quote takes a line feed. -/
inductive FeedsKept : List Frame → Text → Prop where
  | closed {s : Text} : FeedsKept [] s
  | ended {stack : List Frame} : FeedsKept stack []
  | closing {o : Opening} {stack : List Frame} {s r : Text}
      (closes : Text.after? o.closing s = some r) (rest : FeedsKept stack r) :
      FeedsKept (.body o :: stack) s
  | escapeEnd {o : Opening} {stack : List Frame} {s : Text}
      (notClosing : Text.after? o.closing s = none) (escapes : Text.after? o.escape s = some []) :
      FeedsKept (.body o :: stack) s
  | interpolation {o : Opening} {stack : List Frame} {s r : Text}
      (notClosing : Text.after? o.closing s = none)
      (escapes : Text.after? o.escape s = some ('(' :: r))
      (rest : FeedsKept (.code :: .body o :: stack) r) : FeedsKept (.body o :: stack) s
  | escaped {o : Opening} {stack : List Frame} {s r : Text} {d : Char}
      (notClosing : Text.after? o.closing s = none)
      (escapes : Text.after? o.escape s = some (d :: r)) (ne : d ≠ '(')
      (inLine : o.quotes = .one → d ≠ '\n') (rest : FeedsKept (.body o :: stack) r) :
      FeedsKept (.body o :: stack) s
  | feed {o : Opening} {stack : List Frame} {s : Text} (one : o.quotes = .one)
      (rest : FeedsKept stack ('\n' :: s)) : FeedsKept (.body o :: stack) ('\n' :: s)
  | plain {o : Opening} {stack : List Frame} {c : Char} {s : Text}
      (notClosing : Text.after? o.closing (c :: s) = none)
      (notEscape : Text.after? o.escape (c :: s) = none) (inLine : ¬(o.quotes = .one ∧ c = '\n'))
      (rest : FeedsKept (.body o :: stack) s) : FeedsKept (.body o :: stack) (c :: s)
  | literal {o : Opening} {stack : List Frame} {s r : Text} (opens : opening? s = some (o, r))
      (rest : FeedsKept (.body o :: .code :: stack) r) : FeedsKept (.code :: stack) s
  | opens {stack : List Frame} {s : Text} (rest : FeedsKept (.code :: .code :: stack) s) :
      FeedsKept (.code :: stack) ('(' :: s)
  | closes {stack : List Frame} {s : Text} (rest : FeedsKept stack s) :
      FeedsKept (.code :: stack) (')' :: s)
  | code {stack : List Frame} {c : Char} {s : Text} (notLiteral : opening? (c :: s) = none)
      (notOpen : c ≠ '(') (notClose : c ≠ ')') (rest : FeedsKept (.code :: stack) s) :
      FeedsKept (.code :: stack) (c :: s)

theorem after?_closing_eq_none (o : Opening) (hc : c ≠ '"') (s : Text) :
    Text.after? o.closing (c :: s) = none := by
  cases hq : o.quotes <;> simp [Opening.closing, Quotes.text, hq, Text.after?, hc.symm]

theorem after?_escape_eq_none (o : Opening) (hc : c ≠ '\\') (s : Text) :
    Text.after? o.escape (c :: s) = none := by
  simp [Opening.escape, Text.after?, hc.symm]

theorem opening?_eq_none (hhash : c ≠ '#') (hquote : c ≠ '"') (s : Text) :
    opening? (c :: s) = none := by
  apply openingAfter?.eq_4
  · simp [hhash]
  · simp [hquote]
  · simp [hquote]

theorem after?_closing_crlf (o : Opening) (s : Text) :
    Text.after? o.closing (crlf s) = (Text.after? o.closing s).map crlf := by
  refine after?_crlf ?_ ?_ s
  · cases hq : o.quotes <;> simp [Opening.closing, Quotes.text, hq]
  · cases hq : o.quotes <;> simp [Opening.closing, Quotes.text, hq]

theorem after?_escape_crlf (o : Opening) (s : Text) :
    Text.after? o.escape (crlf s) = (Text.after? o.escape s).map crlf :=
  after?_crlf (by simp [Opening.escape]) (by simp [Opening.escape]) s

theorem openingAfter?_crlf (n : Nat) (s : Text) :
    openingAfter? n (crlf s) = (openingAfter? n s).map fun (o, r) => (o, crlf r) := by
  fun_induction openingAfter? n s with
  | case1 n s ih => exact ih
  | case2 n s => rfl
  | case3 n s h =>
    apply openingAfter?.eq_3 n (crlf s)
    intro r hr
    obtain ⟨t, rfl, ht⟩ := Text.exists_of_crlf_eq_cons hr (by decide)
    obtain ⟨t, rfl, -⟩ := Text.exists_of_crlf_eq_cons ht (by decide)
    exact h t rfl
  | case4 n s hhash hthree hone =>
    refine openingAfter?.eq_4 _ _ (fun r hr => ?_) (fun r hr => ?_) fun r hr => ?_
    · obtain ⟨t, rfl, -⟩ := Text.exists_of_crlf_eq_cons hr (by decide)
      exact hhash t rfl
    · obtain ⟨t, rfl, -⟩ := Text.exists_of_crlf_eq_cons hr (by decide)
      exact hone t rfl
    · obtain ⟨t, rfl, -⟩ := Text.exists_of_crlf_eq_cons hr (by decide)
      exact hone t rfl

theorem opening?_crlf (s : Text) :
    opening? (crlf s) = (opening? s).map fun (o, r) => (o, crlf r) :=
  openingAfter?_crlf 0 s

/-- Whatever is open, a carriage return is passed. -/
theorem afterAll_return (f : Frame) (stack : List Frame) (s : Text) :
    afterAll (f :: stack) ('\r' :: s) = afterAll (f :: stack) s := by
  cases f with
  | body o =>
    exact afterAll_plain (after?_closing_eq_none o (by decide) s)
      (after?_escape_eq_none o (by decide) s) (by simp)
  | code => exact afterAll_code (opening?_eq_none (by decide) (by decide) s) (by decide) (by decide)

/-- Whatever is open is closed at the same place, if every line feed is kept. -/
theorem afterAll_crlf (h : FeedsKept stack s) :
    AfterCrlf (afterAll stack s) (afterAll stack (crlf s)) := by
  induction h with
  | closed =>
    rw [afterAll_nil, afterAll_nil]
    exact .inl rfl
  | ended =>
    rw [Text.crlf_nil, afterAll_at_end]
    exact .inl rfl
  | @closing o stack s r closes rest ih =>
    have hc := after?_closing_crlf o s
    rw [closes] at hc
    rw [afterAll_closing closes, afterAll_closing hc]
    exact ih
  | @escapeEnd o stack s notClosing escapes =>
    have hc := after?_closing_crlf o s
    have he := after?_escape_crlf o s
    rw [notClosing] at hc
    rw [escapes] at he
    rw [afterAll_escape_end notClosing escapes, afterAll_escape_end hc he]
    exact .inl rfl
  | @interpolation o stack s r notClosing escapes rest ih =>
    have hc := after?_closing_crlf o s
    have he := after?_escape_crlf o s
    rw [notClosing] at hc
    rw [escapes] at he
    rw [afterAll_interpolation notClosing escapes, afterAll_interpolation hc he]
    exact ih
  | @escaped o stack s r d notClosing escapes ne inLine rest ih =>
    have hc := after?_closing_crlf o s
    have he := after?_escape_crlf o s
    rw [notClosing] at hc
    rw [escapes] at he
    rw [afterAll_escaped notClosing escapes ne]
    by_cases hd : d = '\n'
    · subst hd
      -- the escape takes the carriage return, and the line feed is passed as any character is
      have hline : ¬(o.quotes = .one ∧ '\n' = '\n') := fun hq => inLine hq.1 rfl
      rw [Option.map_some, Text.crlf_feed] at he
      rw [afterAll_escaped hc he (by decide), afterAll_plain
        (after?_closing_eq_none o (by decide) _) (after?_escape_eq_none o (by decide) _) hline]
      exact ih
    · rw [Option.map_some, Text.crlf_cons hd] at he
      rw [afterAll_escaped hc he ne]
      exact ih
  | @feed o stack s one rest ih =>
    have hfeed (stack : List Frame) (u : Text) :
        afterAll (.body o :: stack) ('\n' :: u) = afterAll stack ('\n' :: u) :=
      afterAll_feed (after?_closing_eq_none o (by decide) u)
        (after?_escape_eq_none o (by decide) u) one
    rw [Text.crlf_feed, afterAll_return, hfeed, hfeed]
    cases stack with
    | nil =>
      rw [afterAll_nil, afterAll_nil]
      exact .inr ⟨s, rfl, rfl⟩
    | cons f stack =>
      rw [Text.crlf_feed, afterAll_return] at ih
      exact ih
  | @plain o stack c s notClosing notEscape inLine rest ih =>
    rw [afterAll_plain notClosing notEscape inLine]
    by_cases hc : c = '\n'
    · subst hc
      rw [Text.crlf_feed, afterAll_return, afterAll_plain
        (after?_closing_eq_none o (by decide) _) (after?_escape_eq_none o (by decide) _) inLine]
      exact ih
    · have hclosing := after?_closing_crlf o (c :: s)
      have hescape := after?_escape_crlf o (c :: s)
      rw [notClosing, Text.crlf_cons hc] at hclosing
      rw [notEscape, Text.crlf_cons hc] at hescape
      rw [Text.crlf_cons hc, afterAll_plain hclosing hescape inLine]
      exact ih
  | @literal o stack s r opens rest ih =>
    have ho := opening?_crlf s
    rw [opens] at ho
    rw [afterAll_literal opens, afterAll_literal ho]
    exact ih
  | opens rest ih =>
    rw [Text.crlf_cons (by decide), afterAll_open, afterAll_open]
    exact ih
  | closes rest ih =>
    rw [Text.crlf_cons (by decide), afterAll_close, afterAll_close]
    exact ih
  | @code stack c s notLiteral notOpen notClose rest ih =>
    rw [afterAll_code notLiteral notOpen notClose]
    by_cases hc : c = '\n'
    · subst hc
      rw [Text.crlf_feed, afterAll_return, afterAll_code
        (opening?_eq_none (by decide) (by decide) _) notOpen notClose]
      exact ih
    · have ho := opening?_crlf (c :: s)
      rw [notLiteral, Text.crlf_cons hc] at ho
      rw [Text.crlf_cons hc, afterAll_code ho notOpen notClose]
      exact ih

theorem after?_crlf_of_some (hs : after? s = some r)
    (hkept : ∀ o u, opening? s = some (o, u) → FeedsKept [.body o] u) :
    ∃ t, after? (crlf s) = some t ∧ AfterCrlf r t := by
  obtain ⟨⟨o, u⟩, ho, rfl⟩ := Option.map_eq_some_iff.1 hs
  refine ⟨_, ?_, afterAll_crlf (hkept o u ho)⟩
  rw [after?, opening?_crlf, ho]
  rfl

end Literal

namespace Comment

theorem afterLine_crlf (s : Text) : AfterCrlf (afterLine s) (afterLine (crlf s)) := by
  induction s with
  | nil => exact .inl rfl
  | cons c s ih =>
    by_cases hc : c = '\n'
    · subst hc
      exact .inr ⟨s, rfl, rfl⟩
    · rw [Text.crlf_cons hc]
      simpa [afterLine, hc] using ih

theorem afterBlock_crlf (nested : Nat) (s : Text) :
    afterBlock nested (crlf s) = crlf (afterBlock nested s) := by
  fun_induction afterBlock nested s with
  | case1 nested => rfl
  | case2 nested s ih => exact ih
  | case3 s => rfl
  | case4 s nested ih => exact ih
  | case5 nested c s hopen hclose ih =>
    by_cases hc : c = '\n'
    · subst hc
      exact ih
    · rw [Text.crlf_cons hc, afterBlock.eq_5 nested c (crlf s), ih]
      · intro u hslash hu
        obtain ⟨t, rfl, -⟩ := Text.exists_of_crlf_eq_cons hu (by decide)
        exact hopen t hslash rfl
      · intro u hstar hu
        obtain ⟨t, rfl, -⟩ := Text.exists_of_crlf_eq_cons hu (by decide)
        exact hclose t hstar rfl

end Comment

variable {kind : Kind} {offset p : Nat}

theorem item?_crlf (h : item? s = some (kind, r))
    (hkept : ∀ o u, Literal.opening? s = some (o, u) → Literal.FeedsKept [.body o] u) :
    ∃ t, item? (crlf s) = some (kind, t) ∧ AfterCrlf r t := by
  fun_cases item? s with
  | case1 s =>
    obtain ⟨rfl, rfl⟩ := Prod.mk.inj (Option.some.inj h)
    exact ⟨_, rfl, Comment.afterLine_crlf s⟩
  | case2 s =>
    obtain ⟨rfl, rfl⟩ := Prod.mk.inj (Option.some.inj h)
    exact ⟨_, rfl, .inl (Comment.afterBlock_crlf 0 s)⟩
  | case3 _ hline hblock =>
    rw [item?.eq_3 s hline hblock] at h
    obtain ⟨u, hu, he⟩ := Option.map_eq_some_iff.1 h
    obtain ⟨rfl, rfl⟩ := Prod.mk.inj he
    obtain ⟨t, ht, hafter⟩ := Literal.after?_crlf_of_some hu hkept
    refine ⟨t, ?_, hafter⟩
    rw [item?.eq_3 (crlf s), ht]
    · rfl
    · intro v hv
      obtain ⟨w, rfl, hw⟩ := Text.exists_of_crlf_eq_cons hv (by decide)
      obtain ⟨w, rfl, -⟩ := Text.exists_of_crlf_eq_cons hw (by decide)
      exact hline w rfl
    · intro v hv
      obtain ⟨w, rfl, hw⟩ := Text.exists_of_crlf_eq_cons hv (by decide)
      obtain ⟨w, rfl, -⟩ := Text.exists_of_crlf_eq_cons hw (by decide)
      exact hblock w rfl

theorem item?_eq_none_iff : item? (s.drop p) = none ↔ ∀ kind, ¬OpensAt s p kind := by
  rw [Option.eq_none_iff_forall_ne_some, Prod.forall]
  simp only [← item?_isSome_iff, ne_eq, not_exists]

/-- No item begins with a character of a line end. -/
theorem item?_eq_none (hc : c ∉ edges) (s : Text) : item? (c :: s) = none := by
  refine item?_eq_none_iff (p := 0) |>.2 fun kind h => ?_
  obtain ⟨d, hd, hcons⟩ := h.edge
  exact hc (Option.some.inj hcons ▸ hd)

theorem opensAt_crlf {kind : Kind} (h : OpensAt (crlf s) (crlfPlace s p) kind) :
    OpensAt s p kind := by
  cases kind with
  | comment =>
    exact h.imp (Text.holdsAt_crlfPlace_iff (by decide) (by decide)).1
      (Text.holdsAt_crlfPlace_iff (by decide) (by decide)).1
  | string =>
    obtain ⟨hashes, h⟩ := h
    exact ⟨hashes, (Text.holdsAt_crlfPlace_iff (by simp) (by simp)).1 h⟩

theorem item?_crlf_of_none (h : item? s = none) : item? (crlf s) = none := by
  have hopens : ∀ kind, ¬OpensAt s 0 kind := item?_eq_none_iff.1 h
  refine item?_eq_none_iff (p := 0) |>.2 fun kind hk => hopens kind (opensAt_crlf ?_)
  rwa [Text.crlfPlace_zero]

/-- The item `j` of the text with carriage returns is the item `i` of the plain text. -/
structure IsCrlf (s : Text) (i j : Item) : Prop where
  kind_eq : j.kind = i.kind
  start_eq : j.span.start = crlfPlace s i.span.start
  stop_eq : j.span.stop = crlfPlace s i.span.stop ∨
    s[i.span.stop]? = some '\n' ∧ j.span.stop = crlfPlace s i.span.stop + 1

/-- No escape in a literal of one quote takes a line feed. -/
def KeepsFeeds (s : Text) : Prop :=
  ∀ i ∈ items s, ∀ o r, Literal.opening? (s.drop i.span.start) = some (o, r) →
    Literal.FeedsKept [.body o] r

/-- The search goes on behind an item alike, whether or not the item took the carriage return. -/
theorem exists_itemsFrom_of_afterCrlf {stop : Nat} (h : AfterCrlf (s.drop stop) t)
    (hstop : stop ≤ s.length) : ∃ stop', stop' + t.length = (crlf s).length ∧
      (stop' = crlfPlace s stop ∨ s[stop]? = some '\n' ∧ stop' = crlfPlace s stop + 1) ∧
      itemsFrom stop' t = itemsFrom (crlfPlace s stop) (crlf (s.drop stop)) := by
  have hlength := Text.crlfPlace_add_length hstop
  rcases h with rfl | ⟨r, hr, rfl⟩
  · exact ⟨crlfPlace s stop, hlength, .inl rfl, rfl⟩
  · have hfeed : s[stop]? = some '\n' := by rw [← List.head?_drop, hr, List.head?_cons]
    rw [hr, Text.crlf_feed] at hlength ⊢
    refine ⟨crlfPlace s stop + 1, ?_, .inr ⟨hfeed, rfl⟩, ?_⟩
    · rw [← hlength, List.length_cons (a := '\r')]
      omega
    · exact (itemsFrom_of_none (item?_eq_none (by decide) _)).symm

theorem itemsFrom_crlf {u : Text} (hu : u = s.drop p)
    (hkept : ∀ i ∈ itemsFrom p u, ∀ o r, Literal.opening? (s.drop i.span.start) = some (o, r) →
      Literal.FeedsKept [.body o] r) :
    List.Forall₂ (IsCrlf s) (itemsFrom p u) (itemsFrom (crlfPlace s p) (crlf u)) := by
  fun_induction itemsFrom p u with
  | case1 p =>
    rw [Text.crlf_nil, itemsFrom_nil]
    exact .nil
  | case2 p c u kind r hr stop ih =>
    obtain ⟨hhead, htail⟩ := List.forall_mem_cons.1 hkept
    have hshort := length_item? hr
    have hlength : (c :: u).length = s.length - p := by rw [hu, List.length_drop]
    have hdrop : r = s.drop stop := by
      rw [List.suffix_iff_eq_drop.1 (item?_suffix hr), hu, List.drop_drop, ← hu]
    have hle : stop ≤ s.length := by omega
    obtain ⟨t, ht, hafter⟩ := item?_crlf hr (hu ▸ hhead)
    rw [hdrop] at hafter
    obtain ⟨stop', hstop', hcases, hrest⟩ := exists_itemsFrom_of_afterCrlf hafter hle
    have hplace := Text.crlfPlace_add_length (s := s) (x := p) (by omega)
    have hlt : crlfPlace s p < crlfPlace s stop := by
      rw [Text.crlfPlace_lt_iff]
      omega
    have hstart : crlfPlace s p ≤ stop' := by omega
    rw [itemsFrom_eq_cons ht hstart (by rw [hstop', ← hplace, hu]), hrest, ← hdrop]
    exact .cons ⟨rfl, rfl, hcases⟩ (ih hdrop htail)
  | case3 p c u hn ih =>
    have hnext : u = s.drop (p + 1) := by
      rw [← List.drop_drop, ← hu, List.drop_one, List.tail_cons]
    have hc : s[p]? = some c := by rw [← List.head?_drop, ← hu, List.head?_cons]
    by_cases hfeed : c = '\n'
    · subst hfeed
      rw [Text.crlf_feed, itemsFrom_of_none (item?_eq_none (by decide) _),
        itemsFrom_of_none (item?_eq_none (by decide) _), Nat.add_assoc,
        ← Text.crlfPlace_succ_of_feed hc]
      exact ih hnext hkept
    · have hnone := item?_crlf_of_none hn
      rw [Text.crlf_cons hfeed] at hnone ⊢
      rw [itemsFrom_of_none hnone, ← Text.crlfPlace_succ_of_ne (by rw [hc]; simpa using hfeed)]
      exact ih hnext hkept

/-- The items of a text and of the same text with carriage returns, one by one. -/
theorem items_crlf (h : KeepsFeeds s) : List.Forall₂ (IsCrlf s) (items s) (items (crlf s)) := by
  have hitems := itemsFrom_crlf (s := s) (p := 0) List.drop_zero.symm h
  rwa [Text.crlfPlace_zero] at hitems

end PatternLint.Syntax
