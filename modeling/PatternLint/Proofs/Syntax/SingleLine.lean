import PatternLint.Proofs.Syntax.Grammar
import PatternLint.Proofs.Syntax.Partition

/-! Literals of one quote and the line on which they begin. A literal without interpolations holds
no line feed but those that escapes take. One whose body holds no escape and no line feed is read as
it stands, unless quotes at the start of its body make up three with the opening one: then it ends
there only if three quotes close it too. -/

namespace PatternLint.Syntax

theorem after?_of_item? {s r : Text} (h : item? s = some (.string, r)) :
    Literal.after? s = some r := by
  fun_cases item? s with
  | case1 s => cases h
  | case2 s => cases h
  | case3 _ hline hblock =>
    rw [item?.eq_3 s hline hblock] at h
    simpa using h

namespace Literal

/-- Every line feed stands directly behind `lead`. -/
def FeedsFollow (lead w : Text) : Prop :=
  ∀ before after, w = before ++ '\n' :: after → lead <:+ before

namespace FeedsFollow

variable {lead v w : Text}

theorem of_notMem (h : '\n' ∉ w) : FeedsFollow lead w := by
  intro before after hw
  simp [hw] at h

theorem append (hv : FeedsFollow lead v) (hw : FeedsFollow lead w) :
    FeedsFollow lead (v ++ w) := by
  intro before after heq
  obtain ⟨u, rfl, hu⟩ | ⟨u, rfl, hu⟩ := List.append_eq_append_iff.1 heq
  · exact (hw u after hu).trans (List.suffix_append v u)
  · cases u with
    | nil =>
      have hlead := hw [] after hu.symm
      rw [List.suffix_nil] at hlead
      simp [hlead]
    | cons c u =>
      obtain ⟨rfl, -⟩ := List.cons.inj hu
      exact hv before u rfl

theorem behind (hlead : '\n' ∉ lead) (c : Char) : FeedsFollow lead (lead ++ [c]) := by
  intro before after heq
  rcases List.eq_nil_or_concat after with rfl | ⟨init, d, rfl⟩
  · obtain ⟨rfl, -⟩ := List.append_inj' heq rfl
    exact List.suffix_rfl
  · have hinit : lead ++ [c] = (before ++ '\n' :: init) ++ [d] := by simpa using heq
    have hmem := (List.append_inj' hinit rfl).1
    simp [hmem] at hlead

end FeedsFollow

variable {o : Opening} {s : Text}

theorem feed_notMem_escape (o : Opening) : '\n' ∉ o.escape := by
  simp [Opening.escape]

theorem feed_notMem_closing (o : Opening) : '\n' ∉ o.closing := by
  cases hq : o.quotes <;> simp [Opening.closing, Quotes.text, hq]

/-- What a literal of one quote passes until it ends: without an interpolation, each line feed of it
is one that an escape takes. -/
theorem exists_feedsFollow (hone : o.quotes = .one) (s : Text) :
    ∃ w, w ++ afterAll [.body o] s = s ∧
      (¬o.escape ++ ['('] <:+: w → FeedsFollow o.escape w) := by
  generalize hstack : [Frame.body o] = stack
  fun_induction afterAll stack s with
  | case1 => cases hstack
  | case2 => exact ⟨[], rfl, fun _ => .of_notMem List.not_mem_nil⟩
  | case3 o' stack c s r hr ih =>
    cases hstack
    rw [afterAll_nil]
    exact ⟨o.closing, (Text.after?_eq_some.1 hr).symm, fun _ => .of_notMem (feed_notMem_closing o)⟩
  | case4 o' stack c s _ hr =>
    cases hstack
    exact ⟨o.escape, (Text.after?_eq_some.1 hr).symm, fun _ => .of_notMem (feed_notMem_escape o)⟩
  | case5 o' stack c s _ r hr ih =>
    cases hstack
    have hends : Ends o.closing r (afterAll [.code, .body o] r) := afterAll_ends (by simp)
    obtain ⟨v, hv⟩ := hends.suffix
    refine ⟨o.escape ++ '(' :: v, ?_, fun hplain => absurd ?_ hplain⟩
    · rw [Text.after?_eq_some.1 hr, List.append_assoc, List.cons_append, hv]
    · exact ⟨[], v, by simp⟩
  | case6 o' stack c s _ d r hr _ ih =>
    cases hstack
    obtain ⟨w, hw, hfeeds⟩ := ih rfl
    refine ⟨o.escape ++ [d] ++ w, ?_, fun hplain => ?_⟩
    · rw [Text.after?_eq_some.1 hr, List.append_assoc, hw]
      simp
    · refine .append (.behind (feed_notMem_escape o) d) (hfeeds fun hw => hplain ?_)
      exact hw.trans (List.suffix_append _ w).isInfix
  | case7 o' stack c s _ _ hline ih =>
    cases hstack
    rw [afterAll_nil]
    exact ⟨[], rfl, fun _ => .of_notMem List.not_mem_nil⟩
  | case8 o' stack c s _ _ hline ih =>
    cases hstack
    obtain ⟨w, hw, hfeeds⟩ := ih rfl
    have hc : c ≠ '\n' := fun hc => hline ⟨hone, hc⟩
    refine ⟨[c] ++ w, ?_, fun hplain => ?_⟩
    · rw [List.append_assoc, hw]
      rfl
    · refine .append (.of_notMem (by simpa using hc.symm)) (hfeeds fun hw => hplain ?_)
      exact hw.trans (List.suffix_append _ w).isInfix
  | case9 => cases hstack
  | case10 => cases hstack
  | case11 => cases hstack
  | case12 => cases hstack

theorem after?_of_opens {i : Nat} (h : Opens s o i) :
    after? (s.drop i) = some (afterAll [.body o] (s.drop (i + o.text.length))) := by
  rw [after?, opening?_of_opens h]
  rfl

/-- Without an interpolation, a literal of one quote holds a line feed exactly when an escape in it
takes one; each of its line feeds stands directly behind an escape. -/
theorem feed_notMem_literal_iff {i : Item} (hi : i ∈ (classify s).toList) (hkind : i.kind = .string)
    (hopens : Opens s o i.span.start) (hone : o.quotes = .one)
    (hplain : ¬o.escape ++ ['('] <:+: s.slice i.span.start i.span.stop) :
    ('\n' ∉ s.slice i.span.start i.span.stop ↔
        ¬o.escape ++ ['\n'] <:+: s.slice i.span.start i.span.stop) ∧
      FeedsFollow o.escape (s.slice i.span.start i.span.stop) := by
  rw [toList_classify] at hi
  obtain ⟨-, hlt, -, hreads⟩ := (search_items s).of_mem hi
  rw [hkind] at hreads
  have hafter := after?_of_item? hreads
  rw [after?_of_opens hopens, Option.some.injEq] at hafter
  obtain ⟨w, hw, hfeeds⟩ := exists_feedsFollow hone (s.drop (i.span.start + o.text.length))
  rw [hafter] at hw
  have htext : s.slice i.span.start i.span.stop = o.text ++ w := by
    refine List.append_cancel_right (?_ : _ ++ s.drop i.span.stop = _ ++ s.drop i.span.stop)
    rw [Text.slice_append_drop (Nat.le_of_lt hlt), List.append_assoc, hw, hopens.holds.append_drop]
  rw [htext] at hplain ⊢
  have hfollow : FeedsFollow o.escape (o.text ++ w) := by
    refine .append (.of_notMem ?_) (hfeeds fun hw => hplain ?_)
    · simp [Opening.text, hone, Quotes.text]
    · exact hw.trans (List.suffix_append _ w).isInfix
  refine ⟨not_congr ⟨fun hmem => ?_, fun hescape => ?_⟩, hfollow⟩
  · obtain ⟨before, after, heq⟩ := List.append_of_mem hmem
    obtain ⟨lead, hlead⟩ := hfollow before after heq
    exact ⟨lead, after, by rw [heq, ← hlead]; simp⟩
  · exact hescape.subset (by simp)

/-- A raw literal that its line ends, with backslashes and quotes that are plain in it. -/
theorem feed_notMem_literal_iff_of_unterminated :
    let s : Text := "x = #\"a\\\"b\nvar c".toList
    let i : Item := ⟨.string, ⟨4, 10, by decide⟩⟩
    let o : Opening := ⟨1, .one⟩
    let text := s.slice i.span.start i.span.stop
    i ∈ (classify s).toList ∧ i.kind = .string ∧ Opens s o i.span.start ∧ o.quotes = .one ∧
      ¬o.escape ++ ['('] <:+: text ∧
      ('\n' ∉ text ↔ ¬o.escape ++ ['\n'] <:+: text) ∧ FeedsFollow o.escape text := by
  intro s i o text
  have hi : i ∈ (classify s).toList := by
    rw [toList_classify]
    decide +kernel
  have hopens : Opens s o i.span.start := ⟨by decide, by decide⟩
  have hplain : ¬o.escape ++ ['('] <:+: text := by decide +kernel
  exact ⟨hi, rfl, hopens, rfl, hplain, feed_notMem_literal_iff hi rfl hopens rfl hplain⟩

/-- An escape before the end of the line takes it, and the literal goes on over the next line. -/
theorem literal_over_two_lines :
    let s : Text := "\"\\\nvar a: Int? = nil".toList
    let i : Item := ⟨.string, ⟨0, 20, by decide⟩⟩
    i ∈ (classify s).toList ∧ i.kind = .string ∧ Opens s ⟨0, .one⟩ i.span.start ∧
      ¬Opening.escape ⟨0, .one⟩ ++ ['('] <:+: s.slice i.span.start i.span.stop ∧
      '\n' ∈ s.slice i.span.start i.span.stop := by
  intro s i
  have hi : i ∈ (classify s).toList := by
    rw [toList_classify]
    decide +kernel
  exact ⟨hi, rfl, ⟨by decide, by decide⟩, by decide +kernel, by decide +kernel⟩

/-- A stretch of a body without a delimiter or an escape, and in one line where it has to be. -/
theorem Spells.body_of_clear {i j : Nat} (hij : i ≤ j) (hj : j ≤ s.length)
    (hclosing : ∀ x, i ≤ x → x < j → ¬s.HoldsAt x o.closing)
    (hescape : ∀ x, i ≤ x → x < j → ¬s.HoldsAt x o.escape)
    (hline : o.quotes = .one → ∀ x, i ≤ x → x < j → s[x]? ≠ some '\n') :
    Spells s (.body o) i j := by
  induction hn : j - i generalizing i with
  | zero =>
    obtain rfl : i = j := by omega
    exact .bodyEnd
  | succ n ih =>
    have hi : i < j := by omega
    have hc : s[i]? = some s[i] := List.getElem?_eq_getElem (by omega)
    refine .bodyChar hc (hclosing i (Nat.le_refl i) hi) (hescape i (Nat.le_refl i) hi) ?_ ?_
    · intro hone hfeed
      exact hline hone i (Nat.le_refl i) hi (hfeed ▸ hc)
    · refine ih hi (fun x hx => hclosing x ?_) (fun x hx => hescape x ?_)
        (fun hone x hx => hline hone x ?_) (by omega)
      all_goals omega

/-- A literal ends behind its closing delimiter, once the scan has passed its body. -/
theorem after?_of_body {i j : Nat} (hopens : Opens s o i)
    (hbody : Spells s (.body o) (i + o.text.length) j) (hcloses : s.HoldsAt j o.closing) :
    after? (s.drop i) = some (s.drop (j + o.closing.length)) := by
  rw [after?_of_opens hopens, hbody.passed [], afterAll_drop_closing hcloses, afterAll_nil]

theorem length_text_one (n : Nat) : (Opening.text ⟨n, .one⟩).length = n + 1 := by
  simp [Opening.text, Quotes.text]

theorem length_text_three (n : Nat) : (Opening.text ⟨n, .three⟩).length = n + 3 := by
  simp [Opening.text, Quotes.text]

theorem length_closing_one (n : Nat) : (Opening.closing ⟨n, .one⟩).length = n + 1 := by
  simp [Opening.closing, Quotes.text]

theorem length_closing_three (n : Nat) : (Opening.closing ⟨n, .three⟩).length = n + 3 := by
  simp [Opening.closing, Quotes.text]

/-- A literal of one quote with `hashes` hashes begins the text. Its body goes up to `stop`, where
the closing delimiter stands for the first time, and behind that the line ends. -/
structure HeadsLine (s : Text) (hashes stop : Nat) : Prop where
  opens : s.HoldsAt 0 (Opening.text ⟨hashes, .one⟩)
  le : hashes + 1 ≤ stop
  closes : s.HoldsAt stop (Opening.closing ⟨hashes, .one⟩)
  feed : s[stop + hashes + 1]? = some '\n'
  notClosing : ∀ x, hashes + 1 ≤ x → x < stop → ¬s.HoldsAt x (Opening.closing ⟨hashes, .one⟩)
  notEscape : ∀ x, hashes + 1 ≤ x → x < stop → ¬s.HoldsAt x (Opening.escape ⟨hashes, .one⟩)
  inLine : ∀ x, hashes + 1 ≤ x → x < stop → s[x]? ≠ some '\n'

namespace HeadsLine

variable {hashes stop x : Nat} (h : HeadsLine s hashes stop)
include h

theorem lt_length : stop + hashes + 1 < s.length := (List.getElem?_eq_some_iff.1 h.feed).1

theorem ne_backslash (h1 : stop ≤ x) (h2 : x ≤ stop + hashes + 1) : s[x]? ≠ some '\\' := by
  intro hx
  rcases Nat.lt_or_eq_of_le h2 with hlt | rfl
  · obtain ⟨c, hc, hxc⟩ := h.closes.exists_mem h1
      (by simpa [Opening.closing, Quotes.text, Nat.add_assoc] using hlt)
    obtain rfl := Option.some.inj (hx.symm.trans hxc)
    simp [Opening.closing, Quotes.text] at hc
  · simp [h.feed] at hx

theorem ne_quote (h1 : stop < x) (h2 : x ≤ stop + hashes + 1) : s[x]? ≠ some '"' := by
  intro hx
  rcases Nat.lt_or_eq_of_le h2 with hlt | rfl
  · obtain ⟨c, hc, hxc⟩ := (Text.holdsAt_cons.1 h.closes).2.exists_mem h1
      (by simpa [Nat.add_right_comm] using hlt)
    obtain rfl := Option.some.inj (hx.symm.trans hxc)
    simp at hc
  · simp [h.feed] at hx

/-- Three quotes close only where the last of them is the closing quote. -/
theorem closing_three (h1 : hashes + 3 ≤ x) (h2 : x ≤ stop + hashes + 1)
    (hx : s.HoldsAt x (Opening.closing ⟨hashes, .three⟩)) : x + 2 = stop := by
  obtain ⟨hfirst, hx'⟩ := Text.holdsAt_cons.1 hx
  obtain ⟨hsecond, hclosing⟩ := Text.holdsAt_cons.1 hx'
  have hthird := (Text.holdsAt_cons.1 hclosing).1
  rcases Nat.lt_trichotomy (x + 2) stop with hlt | heq | hgt
  · exact absurd hclosing (h.notClosing (x + 2) (by omega) hlt)
  · exact heq
  · -- one of the three quotes stands behind the closing quote, up to the line feed
    rcases (by omega : x + 2 ≤ stop + hashes + 1 ∨ x + 1 = stop + hashes + 1 ∨
      x = stop + hashes + 1) with hle | hfeed | hfeed
    · exact absurd hthird (h.ne_quote hgt hle)
    · exact absurd hsecond (h.ne_quote (by omega) (by omega))
    · exact absurd hfirst (h.ne_quote (by omega) (by omega))

theorem after?_of_one (hone : ¬s.HoldsAt hashes Quotes.three.text) :
    after? s = some (s.drop (stop + hashes + 1)) := by
  have hopens : Opens s ⟨hashes, .one⟩ 0 := ⟨h.opens, fun _ => by simpa using hone⟩
  have hbody : Spells s (.body ⟨hashes, .one⟩) (0 + (Opening.text ⟨hashes, .one⟩).length) stop := by
    rw [length_text_one, Nat.zero_add]
    have := h.lt_length
    exact .body_of_clear h.le (by omega) h.notClosing h.notEscape fun _ => h.inLine
  have hafter := after?_of_body hopens hbody h.closes
  rwa [List.drop_zero, length_closing_one, ← Nat.add_assoc] at hafter

theorem opens_three (hthree : s.HoldsAt hashes Quotes.three.text) : Opens s ⟨hashes, .three⟩ 0 where
  holds := by
    have hhashes := (Text.holdsAt_append.1 h.opens).1
    exact Text.holdsAt_append.2 ⟨hhashes, by simpa using hthree⟩
  alone := by simp

theorem after?_of_three (hthree : s.HoldsAt hashes Quotes.three.text) (hle : hashes + 5 ≤ stop)
    (hquotes : s.HoldsAt (stop - 2) Quotes.three.text) :
    after? s = some (s.drop (stop + hashes + 1)) := by
  have hstop : stop - 2 + 1 + 1 = stop := by omega
  have := h.lt_length
  have hcloses : s.HoldsAt (stop - 2) (Opening.closing ⟨hashes, .three⟩) := by
    obtain ⟨hfirst, hquotes⟩ := Text.holdsAt_cons.1 hquotes
    have hsecond := (Text.holdsAt_cons.1 hquotes).1
    refine Text.holdsAt_cons.2 ⟨hfirst, Text.holdsAt_cons.2 ⟨hsecond, ?_⟩⟩
    rw [hstop]
    exact h.closes
  have hbody : Spells s (.body ⟨hashes, .three⟩) (0 + (Opening.text ⟨hashes, .three⟩).length)
      (stop - 2) := by
    rw [length_text_three, Nat.zero_add]
    refine .body_of_clear (by omega) (by omega) (fun x h1 h2 hx => ?_) (fun x h1 h2 => ?_) (by simp)
    · have := h.closing_three h1 (by omega) hx
      omega
    · exact h.notEscape x (by omega) (by omega)
  have hafter := after?_of_body (h.opens_three hthree) hbody hcloses
  have hplace : stop - 2 + (hashes + 3) = stop + hashes + 1 := by omega
  rwa [List.drop_zero, length_closing_three, hplace] at hafter

/-- A literal that three quotes open and that does not close with the line goes on behind it. -/
theorem passes_of_three
    (hopen : ¬(hashes + 5 ≤ stop ∧ s.HoldsAt (stop - 2) Quotes.three.text)) :
    Spells s (.body ⟨hashes, .three⟩) (hashes + 3) (stop + hashes + 2) := by
  have hle := h.le
  have := h.lt_length
  refine .body_of_clear (by omega) (by omega) (fun x h1 h2 hx => ?_) (fun x h1 h2 => ?_) (by simp)
  · have hplace := h.closing_three h1 (by omega) hx
    refine hopen ⟨by omega, ?_⟩
    have hx' : s.HoldsAt x (Quotes.three.text ++ List.replicate hashes '#') := hx
    rw [← hplace, Nat.add_sub_cancel]
    exact (Text.holdsAt_append.1 hx').1
  · rcases Nat.lt_or_ge x stop with hlt | hge
    · exact h.notEscape x (by omega) hlt
    · intro hx
      exact h.ne_backslash hge (by omega) (Text.holdsAt_cons.1 hx).1

/-- The literal that begins the text ends with the line, unless three quotes open it and do not
close with the line. -/
theorem after?_eq_iff : after? s = some (s.drop (stop + hashes + 1)) ↔
    (s.HoldsAt hashes Quotes.three.text →
      hashes + 5 ≤ stop ∧ s.HoldsAt (stop - 2) Quotes.three.text) := by
  by_cases hthree : s.HoldsAt hashes Quotes.three.text
  · by_cases hends : hashes + 5 ≤ stop ∧ s.HoldsAt (stop - 2) Quotes.three.text
    · refine iff_of_true ?_ fun _ => hends
      exact h.after?_of_three hthree hends.1 hends.2
    · refine iff_of_false (fun hafter => ?_) fun himp => hends (himp hthree)
      have hopens := after?_of_opens (h.opens_three hthree)
      have hpassed := (h.passes_of_three hends).passed []
      rw [List.drop_zero, hafter, Option.some.injEq, length_text_three, Nat.zero_add,
        hpassed] at hopens
      have hlength := length_afterAll_le [.body ⟨hashes, .three⟩] (s.drop (stop + hashes + 2))
      have := h.lt_length
      rw [← hopens, List.length_drop, List.length_drop] at hlength
      omega
  · exact iff_of_true (h.after?_of_one hthree) fun hholds => absurd hholds hthree

end HeadsLine

/-- A literal of one quote with `hashes` hashes, and the text from the end of its line on. -/
def rawLine (hashes : Nat) (body rest : Text) : Text :=
  Opening.text ⟨hashes, .one⟩ ++ (body ++ (Opening.closing ⟨hashes, .one⟩ ++ '\n' :: rest))

theorem drop_rawLine (hashes : Nat) (body rest : Text) :
    (rawLine hashes body rest).drop (hashes + 1) =
      body ++ (Opening.closing ⟨hashes, .one⟩ ++ '\n' :: rest) := by
  rw [rawLine, List.drop_left' (length_text_one hashes)]

theorem drop_rawLine_append (hashes : Nat) (v w rest : Text) :
    (rawLine hashes (v ++ w) rest).drop (hashes + 1 + v.length) =
      w ++ (Opening.closing ⟨hashes, .one⟩ ++ '\n' :: rest) := by
  rw [← List.drop_drop, drop_rawLine, List.append_assoc, List.drop_left]

theorem holdsAt_rawLine_closing (hashes : Nat) (body rest : Text) :
    (rawLine hashes body rest).HoldsAt (hashes + 1 + body.length)
      (Opening.closing ⟨hashes, .one⟩ ++ ['\n']) := by
  have hbehind := drop_rawLine_append hashes body [] rest
  rw [List.append_nil, List.nil_append] at hbehind
  rw [Text.HoldsAt, hbehind]
  simp

section
variable {hashes : Nat} {body rest : Text}

theorem getElem?_rawLine {x : Nat} (hx : x < body.length) :
    (rawLine hashes body rest)[hashes + 1 + x]? = body[x]? := by
  rw [← List.getElem?_drop, drop_rawLine, List.getElem?_append_left hx]

/-- An escape in the literal would lie in the body, since it holds no quote. -/
theorem not_holdsAt_rawLine_escape (hescape : ¬Opening.escape ⟨hashes, .one⟩ <:+: body) {x : Nat}
    (hx : x < body.length) : ¬(rawLine hashes body rest).HoldsAt (hashes + 1 + x)
      (Opening.escape ⟨hashes, .one⟩) := by
  intro hholds
  by_cases hin : x + (Opening.escape ⟨hashes, .one⟩).length ≤ body.length
  · refine hescape (Text.HoldsAt.isInfix (i := x) (hholds.congr fun z hz => ?_))
    rw [Nat.add_assoc, getElem?_rawLine (by omega)]
  · have hclosing := (Text.holdsAt_append.1 (holdsAt_rawLine_closing hashes body rest)).1
    have hquote := (Text.holdsAt_cons.1 hclosing).1
    obtain ⟨c, hc, hxc⟩ := hholds.exists_mem (x := hashes + 1 + body.length) (by omega) (by omega)
    obtain rfl := Option.some.inj (hquote.symm.trans hxc)
    simp [Opening.escape] at hc

theorem headsLine_rawLine (hline : '\n' ∉ body)
    (hescape : ¬Opening.escape ⟨hashes, .one⟩ <:+: body)
    (hfirst : ∀ x, x < body.length → ¬(body ++ (Opening.closing ⟨hashes, .one⟩ ++
      '\n' :: rest)).HoldsAt x (Opening.closing ⟨hashes, .one⟩)) :
    HeadsLine (rawLine hashes body rest) hashes (hashes + 1 + body.length) := by
  obtain ⟨hclosing, hfeed⟩ := Text.holdsAt_append.1 (holdsAt_rawLine_closing hashes body rest)
  refine ⟨List.prefix_append _ _, Nat.le_add_right _ _, hclosing, ?_, ?_, ?_, ?_⟩
  · rw [length_closing_one] at hfeed
    exact (Text.holdsAt_cons.1 hfeed).1
  · intro x h1 h2 hx
    obtain ⟨y, rfl⟩ := Nat.exists_eq_add_of_le h1
    rw [← Text.holdsAt_drop, drop_rawLine] at hx
    exact hfirst y (by omega) hx
  · intro x h1 h2 hx
    obtain ⟨y, rfl⟩ := Nat.exists_eq_add_of_le h1
    exact not_holdsAt_rawLine_escape hescape (by omega) hx
  · intro x h1 h2 hx
    obtain ⟨y, rfl⟩ := Nat.exists_eq_add_of_le h1
    rw [getElem?_rawLine (by omega)] at hx
    exact hline (List.mem_of_getElem? hx)

/-- Three quotes open the literal if two begin the body and the closing quote taken together. -/
theorem holdsAt_rawLine_three : (rawLine hashes body rest).HoldsAt hashes Quotes.three.text ↔
    ['"', '"'] <+: body ++ ['"'] := by
  have hdrop : (rawLine hashes body rest).drop hashes =
      '"' :: (body ++ (Opening.closing ⟨hashes, .one⟩ ++ '\n' :: rest)) := by
    simp [rawLine, Opening.text, Quotes.text]
  rw [Text.HoldsAt, hdrop]
  rcases body with _ | ⟨c, _ | ⟨d, body⟩⟩
  · cases hashes <;> simp [Quotes.text, Opening.closing, List.replicate_succ]
  · simp [Quotes.text, Opening.closing]
  · simp [Quotes.text]

/-- Three quotes close the literal with the line if two begin its body and two end it. -/
theorem closes_three_iff (hthree : ['"', '"'] <+: body ++ ['"']) :
    (hashes + 5 ≤ hashes + 1 + body.length ∧ (rawLine hashes body rest).HoldsAt
        (hashes + 1 + body.length - 2) Quotes.three.text) ↔
      ∃ middle, body = ['"', '"'] ++ middle ++ ['"', '"'] := by
  -- where the last two characters of a body of four or more stand
  have hends (middle : Text) (c d : Char) :
      hashes + 1 + (['"', '"'] ++ middle ++ [c, d]).length - 2 =
        hashes + 1 + (['"', '"'] ++ middle).length := by
    simp
    omega
  constructor
  · intro hcloses
    obtain ⟨hle, hquotes⟩ := hcloses
    obtain ⟨u, rfl⟩ : ['"', '"'] <+: body :=
      List.prefix_of_prefix_length_le hthree (List.prefix_append _ _) (by simp; omega)
    obtain ⟨middle, w, rfl, hw⟩ : ∃ middle w, u = middle ++ w ∧ w.length = 2 := by
      refine ⟨u.take (u.length - 2), u.drop (u.length - 2), by simp, ?_⟩
      simp at hle ⊢
      omega
    match w, hw with
    | [c, d], _ =>
      rw [← List.append_assoc, hends, Text.HoldsAt, drop_rawLine_append] at hquotes
      simp [Quotes.text] at hquotes
      obtain ⟨rfl, rfl, -⟩ := hquotes
      exact ⟨middle, by simp⟩
  · intro hmiddle
    obtain ⟨middle, rfl⟩ := hmiddle
    refine ⟨by simp; omega, ?_⟩
    rw [hends, Text.HoldsAt, drop_rawLine_append]
    simp [Quotes.text, Opening.closing]

end

end Literal

/-- A literal at the start of a text is its first string item, up to where its scan ends. -/
theorem head?_ofKind_string_iff {s : Text} {stop : Nat} (hopens : OpensAt s 0 .string)
    (hstop : stop ≤ s.length) :
    ((classify s).ofKind .string).head? = some ⟨0, stop, Nat.zero_le stop⟩ ↔
      Literal.after? s = some (s.drop stop) := by
  obtain ⟨r, hr⟩ := (item?_isSome_iff s 0).2 hopens
  rw [List.drop_zero] at hr
  have hsuffix := item?_suffix hr
  have hitems : items s = ⟨.string, ⟨0, 0 + (s.length - r.length), Nat.zero_le _⟩⟩ ::
      itemsFrom (0 + (s.length - r.length)) r := by
    cases s with
    | nil => simp [item?, Literal.after?, Literal.opening?, Literal.openingAfter?] at hr
    | cons c u => exact itemsFrom_of_some hr
  rw [ExcludedSet.ofKind, toList_classify, hitems, after?_of_item? hr]
  simp only [List.filter_cons, decide_true, if_true, List.map_cons, List.head?_cons,
    Option.some.injEq, Span.mk.injEq, true_and, Nat.zero_add]
  have hle := hsuffix.length_le
  constructor
  · intro heq
    rw [List.suffix_iff_eq_drop.1 hsuffix, heq]
  · intro heq
    rw [heq, List.length_drop]
    omega

namespace Literal

/-- A literal of one quote whose body holds no line feed, no escape and no closing delimiter is the
first string item exactly when three quotes do not open it, or open and close it. -/
theorem rawLine_first_iff {hashes : Nat} {body : Text} (rest : Text) (hline : '\n' ∉ body)
    (hescape : ¬Opening.escape ⟨hashes, .one⟩ <:+: body)
    (hfirst : ∀ x, x < body.length → ¬(body ++ (Opening.closing ⟨hashes, .one⟩ ++
      '\n' :: rest)).HoldsAt x (Opening.closing ⟨hashes, .one⟩)) :
    ((classify (rawLine hashes body rest)).ofKind .string).head? =
        some ⟨0, hashes + 1 + body.length + hashes + 1, Nat.zero_le _⟩ ↔
      (['"', '"'] <+: body ++ ['"'] → ∃ middle, body = ['"', '"'] ++ middle ++ ['"', '"']) := by
  have h := headsLine_rawLine hline hescape hfirst
  have hopens : OpensAt (rawLine hashes body rest) 0 .string := ⟨hashes, h.opens⟩
  rw [head?_ofKind_string_iff hopens (Nat.le_of_lt h.lt_length), h.after?_eq_iff,
    holdsAt_rawLine_three]
  exact forall_congr' closes_three_iff

/-- A body that begins with a quote, and holds one with fewer hashes. -/
theorem rawLine_first_iff_of_quoted_body :
    let body : Text := "\"#a".toList
    let rest : Text := "var b".toList
    '\n' ∉ body ∧ ¬Opening.escape ⟨2, .one⟩ <:+: body ∧
      (∀ x, x < body.length → ¬(body ++ (Opening.closing ⟨2, .one⟩ ++ '\n' :: rest)).HoldsAt x
        (Opening.closing ⟨2, .one⟩)) ∧
      (((classify (rawLine 2 body rest)).ofKind .string).head? = some ⟨0, 9, by decide⟩ ↔
        (['"', '"'] <+: body ++ ['"'] →
          ∃ middle, body = ['"', '"'] ++ middle ++ ['"', '"'])) := by
  intro body rest
  have hline : '\n' ∉ body := by decide
  have hescape : ¬Opening.escape ⟨2, .one⟩ <:+: body := by decide +kernel
  have hfirst : ∀ x, x < body.length → ¬(body ++ (Opening.closing ⟨2, .one⟩ ++
      '\n' :: rest)).HoldsAt x (Opening.closing ⟨2, .one⟩) := by decide +kernel
  exact ⟨hline, hescape, hfirst, rawLine_first_iff rest hline hescape hfirst⟩

/-- A body of one quote: three quotes open the literal, and it runs to the end of the text. -/
theorem rawLine_runs_on :
    let body : Text := ['"']
    let rest : Text := "var a: Int? = nil".toList
    '\n' ∉ body ∧ ¬Opening.escape ⟨1, .one⟩ <:+: body ∧
      (∀ x, x < body.length → ¬(body ++ (Opening.closing ⟨1, .one⟩ ++ '\n' :: rest)).HoldsAt x
        (Opening.closing ⟨1, .one⟩)) ∧
      rawLine 1 body rest = "#\"\"\"#\nvar a: Int? = nil".toList ∧
      (classify (rawLine 1 body rest)).toList = [⟨.string, ⟨0, 23, by decide⟩⟩] := by
  intro body rest
  have hitems : items (rawLine 1 body rest) = [⟨.string, ⟨0, 23, by decide⟩⟩] := by decide +kernel
  exact ⟨by decide, by decide +kernel, by decide +kernel, by decide +kernel,
    (toList_classify _).trans hitems⟩

end Literal

end PatternLint.Syntax
