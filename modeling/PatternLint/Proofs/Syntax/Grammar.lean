import PatternLint.Proofs.Syntax.Edges

/-! The grammar of string literals, said by places of a text, and what the scan makes of it. A body
is made of escapes, interpolations and other characters; an interpolation holds balanced code, in
which literals may stand again, each with hashes and quotes of its own. The scan gets from one end
of every such stretch to the other, whatever is open around it; so it ends a well-formed literal
right behind its closing delimiter. -/

namespace PatternLint.Syntax.Literal

/-- The hashes and quotes with which a literal opens. -/
def Opening.text (o : Opening) : Text := List.replicate o.hashes '#' ++ o.quotes.text

/-- A literal opens at `i`. A quote that begins three does not open a literal of one quote. -/
structure Opens (s : Text) (o : Opening) (i : Nat) : Prop where
  holds : s.HoldsAt i o.text
  alone : o.quotes = .one → ¬s.HoldsAt (i + o.hashes) Quotes.three.text

/-- What a stretch of text may be. -/
inductive Phrase where
  | literal
  | body (opening : Opening)
  /-- Code in which parentheses are balanced. -/
  | code

/-- The text from `i` up to `j` is such a phrase. -/
inductive Spells (s : Text) : Phrase → Nat → Nat → Prop where
  | literal {o : Opening} {i j : Nat} (opens : Opens s o i)
      (body : Spells s (.body o) (i + o.text.length) j) (closes : s.HoldsAt j o.closing) :
      Spells s .literal i (j + o.closing.length)
  | bodyEnd {o : Opening} {i : Nat} : Spells s (.body o) i i
  | escape {o : Opening} {i j : Nat} {c : Char} (backslash : s.HoldsAt i o.escape)
      (char : s[i + o.escape.length]? = some c) (ne : c ≠ '(')
      (rest : Spells s (.body o) (i + o.escape.length + 1) j) : Spells s (.body o) i j
  | interpolation {o : Opening} {i j k : Nat} (backslash : s.HoldsAt i o.escape)
      (opens : s[i + o.escape.length]? = some '(')
      (code : Spells s .code (i + o.escape.length + 1) j) (closes : s[j]? = some ')')
      (rest : Spells s (.body o) (j + 1) k) : Spells s (.body o) i k
  | bodyChar {o : Opening} {i j : Nat} {c : Char} (char : s[i]? = some c)
      (notClosing : ¬s.HoldsAt i o.closing) (notEscape : ¬s.HoldsAt i o.escape)
      (inLine : o.quotes = .one → c ≠ '\n') (rest : Spells s (.body o) (i + 1) j) :
      Spells s (.body o) i j
  | codeEnd {i : Nat} : Spells s .code i i
  | nested {i j k : Nat} (literal : Spells s .literal i j) (rest : Spells s .code j k) :
      Spells s .code i k
  | parens {i j k : Nat} (opens : s[i]? = some '(') (code : Spells s .code (i + 1) j)
      (closes : s[j]? = some ')') (rest : Spells s .code (j + 1) k) : Spells s .code i k
  | codeChar {i j : Nat} {c : Char} (char : s[i]? = some c) (notOpen : c ≠ '(')
      (notClose : c ≠ ')') (notQuoted : ¬OpensAt s i .string) (rest : Spells s .code (i + 1) j) :
      Spells s .code i j

section
variable {s : Text} {o : Opening} {stack : List Frame} {i : Nat} {c : Char}

theorem closing_ne_nil (o : Opening) : o.closing ≠ [] := by
  cases hq : o.quotes <;> simp [Opening.closing, Quotes.text, hq]

/-- A closing delimiter begins with a quote, and an escape with a backslash. -/
theorem not_closing_of_escape (h : s.HoldsAt i o.escape) : ¬s.HoldsAt i o.closing := by
  intro hc
  have hbackslash := (Text.holdsAt_cons.1 h).1
  have hquote : s[i]? = some '"' := by
    cases hq : o.quotes <;> simp only [Opening.closing, Quotes.text, hq] at hc
    · exact (Text.holdsAt_cons.1 hc).1
    · exact (Text.holdsAt_cons.1 hc).1
  rw [hbackslash] at hquote
  exact absurd hquote (by decide)

theorem openingAfter?_hashes (n k : Nat) (u : Text) :
    openingAfter? n (List.replicate k '#' ++ u) = openingAfter? (n + k) u := by
  induction k generalizing n with
  | zero => rfl
  | succ k ih =>
    rw [List.replicate_succ, List.cons_append, openingAfter?, ih, Nat.add_assoc, Nat.add_comm 1]

theorem opening?_of_opens (h : Opens s o i) :
    opening? (s.drop i) = some (o, s.drop (i + o.text.length)) := by
  obtain ⟨holds, alone⟩ := h
  obtain ⟨r, hr⟩ := holds
  have hrest : s.drop (i + o.text.length) = r := by
    rw [← List.drop_drop, ← hr, List.drop_left]
  have hquotes : s.drop (i + o.hashes) = o.quotes.text ++ r := by
    rw [← List.drop_drop, ← hr, Opening.text, List.append_assoc,
      List.drop_left' (List.length_replicate ..)]
  rw [hrest, opening?, ← hr, Opening.text, List.append_assoc, openingAfter?_hashes, Nat.zero_add]
  obtain ⟨n, quotes⟩ := o
  cases quotes with
  | one =>
    apply openingAfter?.eq_3 n r
    intro t ht
    refine alone rfl ⟨t, ?_⟩
    rw [hquotes, ht]
    rfl
  | three => rfl

theorem opening?_eq_none_iff : opening? (s.drop i) = none ↔ ¬OpensAt s i .string := by
  rw [← Option.not_isSome_iff_eq_none, opening?, openingAfter?_isSome_iff]
  rfl

/-! The scan at a place of the text. -/

theorem afterAll_drop_closing (h : s.HoldsAt i o.closing) :
    afterAll (.body o :: stack) (s.drop i) = afterAll stack (s.drop (i + o.closing.length)) :=
  afterAll_closing (Text.after?_drop_of_holdsAt h)

theorem after?_drop_escape {d : Char} (h : s.HoldsAt i o.escape)
    (hd : s[i + o.escape.length]? = some d) :
    Text.after? o.closing (s.drop i) = none ∧
      Text.after? o.escape (s.drop i) = some (d :: s.drop (i + o.escape.length + 1)) := by
  refine ⟨Text.after?_drop_eq_none_iff.2 (not_closing_of_escape h), ?_⟩
  rw [Text.after?_drop_of_holdsAt h, Text.drop_eq_cons hd]

theorem afterAll_drop_escaped (h : s.HoldsAt i o.escape) (hc : s[i + o.escape.length]? = some c)
    (hne : c ≠ '(') : afterAll (.body o :: stack) (s.drop i) =
      afterAll (.body o :: stack) (s.drop (i + o.escape.length + 1)) := by
  obtain ⟨hclosing, hescape⟩ := after?_drop_escape h hc
  exact afterAll_escaped hclosing hescape hne

theorem afterAll_drop_interpolation (h : s.HoldsAt i o.escape)
    (hc : s[i + o.escape.length]? = some '(') : afterAll (.body o :: stack) (s.drop i) =
      afterAll (.code :: .body o :: stack) (s.drop (i + o.escape.length + 1)) := by
  obtain ⟨hclosing, hescape⟩ := after?_drop_escape h hc
  exact afterAll_interpolation hclosing hescape

theorem afterAll_drop_plain (hc : s[i]? = some c) (hclosing : ¬s.HoldsAt i o.closing)
    (hescape : ¬s.HoldsAt i o.escape) (hline : o.quotes = .one → c ≠ '\n') :
    afterAll (.body o :: stack) (s.drop i) = afterAll (.body o :: stack) (s.drop (i + 1)) := by
  rw [← Text.after?_drop_eq_none_iff, Text.drop_eq_cons hc] at hclosing hescape
  rw [Text.drop_eq_cons hc]
  exact afterAll_plain hclosing hescape fun h => hline h.1 h.2

theorem afterAll_drop_open (hc : s[i]? = some '(') : afterAll (.code :: stack) (s.drop i) =
    afterAll (.code :: .code :: stack) (s.drop (i + 1)) := by
  rw [Text.drop_eq_cons hc]
  exact afterAll_open _

theorem afterAll_drop_close (hc : s[i]? = some ')') :
    afterAll (.code :: stack) (s.drop i) = afterAll stack (s.drop (i + 1)) := by
  rw [Text.drop_eq_cons hc]
  exact afterAll_close _

theorem afterAll_drop_code (hc : s[i]? = some c) (hopen : c ≠ '(') (hclose : c ≠ ')')
    (hquoted : ¬OpensAt s i .string) :
    afterAll (.code :: stack) (s.drop i) = afterAll (.code :: stack) (s.drop (i + 1)) := by
  rw [← opening?_eq_none_iff, Text.drop_eq_cons hc] at hquoted
  rw [Text.drop_eq_cons hc]
  exact afterAll_code hquoted hopen hclose

end

/-- The scan gets from `i` to `j`, whatever is open around the phrase. -/
def Phrase.Passed (s : Text) : Phrase → Nat → Nat → Prop
  | .literal, i, j => ∃ o r, opening? (s.drop i) = some (o, r) ∧
      ∀ stack, afterAll (.body o :: stack) r = afterAll stack (s.drop j)
  | .body o, i, j => ∀ stack,
      afterAll (.body o :: stack) (s.drop i) = afterAll (.body o :: stack) (s.drop j)
  | .code, i, j => ∀ stack,
      afterAll (.code :: stack) (s.drop i) = afterAll (.code :: stack) (s.drop j)

theorem Spells.passed {s : Text} {phrase : Phrase} {i j : Nat} (h : Spells s phrase i j) :
    phrase.Passed s i j := by
  induction h with
  | literal opens body closes ih =>
    refine ⟨_, _, opening?_of_opens opens, fun stack => ?_⟩
    rw [ih stack, afterAll_drop_closing closes]
  | bodyEnd => exact fun stack => rfl
  | escape backslash char ne rest ih =>
    intro stack
    rw [afterAll_drop_escaped backslash char ne, ih stack]
  | @interpolation o i j k backslash opens code closes rest ihcode ih =>
    intro stack
    -- the code of the interpolation is passed with the literal around it still open
    rw [afterAll_drop_interpolation backslash opens, ihcode (.body o :: stack),
      afterAll_drop_close closes, ih stack]
  | bodyChar char notClosing notEscape inLine rest ih =>
    intro stack
    rw [afterAll_drop_plain char notClosing notEscape inLine, ih stack]
  | codeEnd => exact fun stack => rfl
  | nested literal rest ihliteral ih =>
    intro stack
    obtain ⟨o, r, hopening, hpassed⟩ := ihliteral
    rw [afterAll_literal hopening, hpassed (.code :: stack), ih stack]
  | parens opens code closes rest ihcode ih =>
    intro stack
    rw [afterAll_drop_open opens, ihcode (.code :: stack), afterAll_drop_close closes, ih stack]
  | codeChar char notOpen notClose notQuoted rest ih =>
    intro stack
    rw [afterAll_drop_code char notOpen notClose notQuoted, ih stack]

theorem Spells.stop_le_length {s : Text} {i j : Nat} (h : Spells s .literal i j) :
    j ≤ s.length := by
  cases h with
  | literal opens body closes => exact closes.length_le (closing_ne_nil _)

/-- The scan of a well-formed literal ends right behind it, whatever stands before and after. -/
theorem after?_of_spells {s : Text} {i j : Nat} (h : Spells s .literal i j) :
    j ≤ s.length ∧ after? (s.drop i) = some (s.drop j) := by
  refine ⟨h.stop_le_length, ?_⟩
  obtain ⟨o, r, hopening, hpassed⟩ := h.passed
  rw [after?, hopening]
  exact congrArg some ((hpassed []).trans (afterAll_nil _))

/-- A literal with an interpolation, and in its code a raw literal that holds a parenthesis. -/
theorem after?_of_nested_literal :
    let s := "x = \"\\(f(#\")\"#))\" // y".toList
    Spells s .literal 4 17 ∧ 17 ≤ s.length ∧ after? (s.drop 4) = some (s.drop 17) := by
  intro s
  have inner : Spells s .literal 9 14 :=
    .literal (o := ⟨1, .one⟩) ⟨by decide, by decide⟩
      (.bodyChar (c := ')') (by decide) (by decide) (by decide) (by decide) .bodyEnd) (by decide)
  have arguments : Spells s .code 8 15 :=
    .parens (by decide) (.nested inner .codeEnd) (by decide) .codeEnd
  have code : Spells s .code 7 15 :=
    .codeChar (c := 'f') (by decide) (by decide) (by decide)
      (opening?_eq_none_iff.1 (by decide)) arguments
  have outer : Spells s .literal 4 17 :=
    .literal (o := ⟨0, .one⟩) ⟨by decide, by decide⟩
      (.interpolation (by decide) (by decide) code (by decide) .bodyEnd) (by decide)
  exact ⟨outer, after?_of_spells outer⟩

end PatternLint.Syntax.Literal
