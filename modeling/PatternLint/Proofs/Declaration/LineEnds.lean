import PatternLint.Proofs.Declaration.Local
import PatternLint.Proofs.Declaration.Walk
import PatternLint.Proofs.Syntax.LineEnds

/-! Declarations in a text with carriage returns before its line feeds. Every part of a declaration
takes the two characters of a line end as it takes the line feed alone. Only a declarator that
begins a line reaches one character further: the carriage return is the character directly before
it, so the guard also looks at a line end right behind the keyword or the colon. -/

namespace PatternLint

/-- The match in the text with carriage returns. -/
def Match.inCrlf (s : Text) (m : Match) : Match := ⟨m.span.inCrlf s, m.extent.inCrlf s⟩

namespace Declaration

open Region (isGap)
open Syntax (Item IsCrlf KeepsFeeds items classify)
open Syntax.ExcludedSet (Avoids)
open Text (crlf crlfPlace)

/-- Another declarator stands at the start of a line; the line feed is the blank before it. -/
structure FeedDeclaratorAt (s : Text) (i : Nat) : Prop where
  feed : s[i]? = some '\n'
  declarator : DeclaratorAt s i

/-- Neither the keyword nor the colon of the match is directly followed by a line feed and another
declarator. -/
structure StaysInLine (s : Text) (m : Match) : Prop where
  keyword : ¬FeedDeclaratorAt s (m.extent.start + 3)
  colon : ∀ c, NameEndsAt s m.extent.start c → ¬FeedDeclaratorAt s (c + 1)

variable {s : Text} {a b c d e i j p q : Nat} {m : Match}

theorem crlfPlace_succ_of_eq {x : Char} (h : s[i]? = some x) (hx : x ≠ '\n') :
    crlfPlace s (i + 1) = crlfPlace s i + 1 :=
  Text.crlfPlace_succ_of_ne (by rw [h]; simpa using hx)

theorem crlfPlace_add_three {w : Text} (h : s.HoldsAt i w) (hw : w.length = 3)
    (hfeed : '\n' ∉ w) : crlfPlace s (i + 3) = crlfPlace s i + 3 := by
  rw [← hw]
  exact Text.crlfPlace_add_of_holdsAt h hfeed

/-- The word of a declarator stands at the place of the same word, with its own character before
it. -/
theorem declaratorAt_crlf_iff (hj : j + 1 = crlfPlace s (i + 1)) :
    DeclaratorAt (crlf s) j ↔ DeclaratorAt s i := by
  have hbefore : (crlf s)[j]? = s[i]? := by
    have hpred := Text.getElem?_crlfPlace_pred (s := s) (Nat.succ_pos i)
    rwa [← hj] at hpred
  unfold DeclaratorAt
  rw [hbefore, hj, Text.holdsAt_crlfPlace_iff (by decide) (by decide),
    Text.holdsAt_crlfPlace_iff (by decide) (by decide)]
  apply and_congr_right
  intro _
  apply and_congr_right
  intro hw
  have hlast : crlfPlace s (i + 4) = j + 4 := by
    have hword : crlfPlace s (i + 4) = crlfPlace s (i + 1) + 3 := by
      rcases hw with hw | hw
      · exact crlfPlace_add_three hw rfl (by decide)
      · exact crlfPlace_add_three hw rfl (by decide)
    omega
  rw [← hlast, Text.any_getElem?_crlfPlace (by decide)]

theorem exists_of_declaratorAt_crlf (h : DeclaratorAt (crlf s) j) :
    ∃ i, j + 1 = crlfPlace s (i + 1) ∧ DeclaratorAt s i := by
  obtain ⟨-, hw, -⟩ := id h
  have hletter : ∃ x, j + 1 = crlfPlace s x := by
    rcases hw with hw | hw
    · obtain ⟨x, hx, -⟩ := Text.exists_of_getElem?_crlf (Text.holdsAt_cons.1 hw).1 (by decide)
        (by decide)
      exact ⟨x, hx⟩
    · obtain ⟨x, hx, -⟩ := Text.exists_of_getElem?_crlf (Text.holdsAt_cons.1 hw).1 (by decide)
        (by decide)
      exact ⟨x, hx⟩
  obtain ⟨x, hx⟩ := hletter
  cases x with
  | zero => simp at hx
  | succ i => exact ⟨i, hx, (declaratorAt_crlf_iff hx).1 h⟩

/-- A stretch that ends with a sign is unbroken with carriage returns when it is without and does not
begin with a line feed and a declarator. -/
theorem unbroken_crlf_iff {x : Char} (hle : a ≤ b) (hx : s[b]? = some x)
    (hblank : isBlank x = false) (hword : x ∉ "varlet".toList) :
    Unbroken (crlf s) (crlfPlace s a) (crlfPlace s b) ↔ Unbroken s a b ∧ ¬FeedDeclaratorAt s a := by
  have hfeed : x ≠ '\n' := by
    rintro rfl
    exact absurd hblank (by decide)
  refine ⟨fun h => ⟨fun y h1 h2 hd => ?_, fun hf => ?_⟩, ?_⟩
  · have hlt : crlfPlace s y < crlfPlace s (y + 1) := Text.crlfPlace_lt_crlfPlace (by omega)
    have hlt' : crlfPlace s (y + 1) < crlfPlace s (y + 2) := Text.crlfPlace_lt_crlfPlace (by omega)
    have hstart : crlfPlace s a ≤ crlfPlace s y := Text.crlfPlace_le_iff.2 h1
    have hstop : crlfPlace s (y + 2) ≤ crlfPlace s b := by
      rw [Text.crlfPlace_le_iff]
      apply Nat.lt_of_not_le
      intro hle'
      exact hd.ne_of_le (by omega) (by omega) hblank hword hx
    refine h (crlfPlace s (y + 2) - 2) (by omega) (by omega) ((declaratorAt_crlf_iff ?_).2 hd)
    change crlfPlace s (y + 2) - 2 + 1 + 1 = crlfPlace s (y + 2)
    omega
  · have hlt : a < b := by
      apply Nat.lt_of_le_of_ne hle
      rintro rfl
      exact hfeed (Option.some.inj (hx.symm.trans hf.feed))
    refine h (crlfPlace s a) (Nat.le_refl _) (Text.crlfPlace_lt_crlfPlace hlt)
      ((declaratorAt_crlf_iff ?_).2 hf.declarator)
    rw [Text.crlfPlace_succ_of_feed hf.feed]
  · rintro ⟨hu, hf⟩ y h1 h2 hd
    obtain ⟨i, hi, hd⟩ := exists_of_declaratorAt_crlf hd
    have hai : a < i + 1 := by
      rw [← Text.crlfPlace_lt_iff (s := s)]
      omega
    have hib : i < b := by
      have hnext := crlfPlace_succ_of_eq hx hfeed
      have hle' : i + 1 ≤ b + 1 := by
        rw [← Text.crlfPlace_le_iff (s := s)]
        omega
      apply Nat.lt_of_le_of_ne (Nat.le_of_succ_le_succ hle')
      rintro rfl
      exact hd.ne_of_le (Nat.le_refl _) (by omega) hblank hword hx
    rcases Nat.eq_or_lt_of_le (Nat.le_of_lt_succ hai) with rfl | hlt
    · -- behind the start itself there is room for a declarator only where a line feed stands
      by_cases hfa : s[a]? = some '\n'
      · exact hf ⟨hfa, hd⟩
      · rw [Text.crlfPlace_succ_of_ne hfa] at hi
        omega
    · refine hu (i - 1) (by omega) (by omega) ?_
      rwa [Nat.sub_add_cancel (by omega)]

theorem keywordAt_crlf_iff : KeywordAt (crlf s) (crlfPlace s p) ↔ KeywordAt s p := by
  have hvar : (crlf s).HoldsAt (crlfPlace s p) "var".toList ↔ s.HoldsAt p "var".toList :=
    Text.holdsAt_crlfPlace_iff (by decide) (by decide)
  have hzero : crlfPlace s p = 0 ↔ p = 0 := by
    have hinj := Text.crlfPlace_inj (s := s) (x := p) (y := 0)
    rwa [Text.crlfPlace_zero] at hinj
  have hbefore : (crlfPlace s p = 0 ∨ ¬(crlf s)[crlfPlace s p - 1]?.any isWord) ↔
      (p = 0 ∨ ¬s[p - 1]?.any isWord) := by
    rw [hzero]
    rcases Nat.eq_zero_or_pos p with rfl | hp
    · simp
    · rw [Text.getElem?_crlfPlace_pred hp]
  have hafter (h : s.HoldsAt p "var".toList) :
      (crlf s)[crlfPlace s p + 3]?.any isWord = s[p + 3]?.any isWord := by
    rw [← crlfPlace_add_three h rfl (by decide), Text.any_getElem?_crlfPlace (by decide)]
  refine ⟨fun h => ?_, fun h => ?_⟩
  · have hw := hvar.1 h.holds
    exact ⟨hw, hbefore.1 h.before, hafter hw ▸ h.after⟩
  · exact ⟨hvar.2 h.holds, hbefore.2 h.before, (hafter h.holds).symm ▸ h.after⟩

theorem nameEndsAt_crlf_iff (hk : KeywordAt s p) :
    NameEndsAt (crlf s) (crlfPlace s p) (crlfPlace s c) ↔
      NameEndsAt s p c ∧ ¬FeedDeclaratorAt s (p + 3) := by
  have hplace := crlfPlace_add_three hk.holds rfl (by decide)
  have hcolon (x : Nat) : (crlf s)[crlfPlace s x]? = some ':' ↔ s[x]? = some ':' :=
    Text.getElem?_crlfPlace_eq_iff (by decide) (by decide)
  refine ⟨fun h => ?_, ?_⟩
  · have hle : p + 3 ≤ c := Text.crlfPlace_le_iff.1 (hplace ▸ h.le)
    have hc := (hcolon c).1 h.colon
    have hu := h.unbroken
    rw [← hplace, unbroken_crlf_iff hle hc (by decide) (by decide)] at hu
    refine ⟨⟨hle, hc, fun x h1 h2 hx => ?_, hu.1⟩, hu.2⟩
    refine h.first (crlfPlace s x) ?_ (Text.crlfPlace_lt_crlfPlace h2) ((hcolon x).2 hx)
    rw [← hplace, Text.crlfPlace_le_iff]
    exact h1
  · rintro ⟨h, hf⟩
    refine ⟨?_, (hcolon c).2 h.colon, fun y h1 h2 hy => ?_, ?_⟩
    · rw [← hplace, Text.crlfPlace_le_iff]
      exact h.le
    · obtain ⟨x, rfl, hx⟩ := Text.exists_of_getElem?_crlf hy (by decide) (by decide)
      rw [← hplace, Text.crlfPlace_le_iff] at h1
      exact h.first x h1 (Text.crlfPlace_lt_iff.1 h2) hx
    · rw [← hplace, unbroken_crlf_iff h.le h.colon (by decide) (by decide)]
      exact ⟨h.unbroken, hf⟩

theorem endsLine_crlf_iff (hreturn : '\r' ∉ s) :
    EndsLine (crlf s) (crlfPlace s e) ↔ EndsLine s e := by
  have hne : s[e]? ≠ some '\r' := fun h => hreturn (List.mem_of_getElem? h)
  unfold EndsLine
  by_cases hfeed : s[e]? = some '\n'
  · rw [Text.getElem?_crlfPlace_of_feed hfeed, Text.getElem?_crlfPlace_succ hfeed, hfeed]
    simp
  · rw [Text.getElem?_crlfPlace_of_ne hfeed]
    simp [hfeed, hne]

theorem assigns_crlf_iff :
    Assigns (crlf s) (crlfPlace s a) (crlfPlace s b) (crlfPlace s d) (crlfPlace s e) ↔
      Assigns s a b d e := by
  have hequals : (crlf s)[crlfPlace s b]? = some '=' ↔ s[b]? = some '=' :=
    Text.getElem?_crlfPlace_eq_iff (by decide) (by decide)
  have hnil : (crlf s).HoldsAt (crlfPlace s d) "nil".toList ↔ s.HoldsAt d "nil".toList :=
    Text.holdsAt_crlfPlace_iff (by decide) (by decide)
  have hblanks {x y : Nat} := Text.forall_between_crlfPlace_iff (s := s) (a := x) (b := y)
    (p := isBlank) (by decide)
  have hgaps {x y : Nat} := Text.forall_between_crlfPlace_iff (s := s) (a := x) (b := y)
    (p := isGap) (by decide)
  refine ⟨fun h => ?_, fun h => ?_⟩
  · have hb := crlfPlace_succ_of_eq (hequals.1 h.equals) (by decide)
    have hd := crlfPlace_add_three (hnil.1 h.holds_nil) rfl (by decide)
    refine ⟨Text.crlfPlace_le_iff.1 h.le, Text.crlfPlace_lt_iff.1 h.lt,
      Text.crlfPlace_le_iff.1 (hd ▸ h.nil_le), hblanks.1 h.before, hequals.1 h.equals, ?_,
      hnil.1 h.holds_nil, ?_⟩
    · exact (hblanks (x := b + 1)).1 fun x h1 h2 => h.between x (by omega) h2
    · exact (hgaps (x := d + 3)).1 fun x h1 h2 => h.after x (by omega) h2
  · have hb := crlfPlace_succ_of_eq h.equals (by decide)
    have hd := crlfPlace_add_three h.holds_nil rfl (by decide)
    refine ⟨Text.crlfPlace_le_iff.2 h.le, Text.crlfPlace_lt_iff.2 h.lt, ?_, hblanks.2 h.before,
      hequals.2 h.equals, ?_, hnil.2 h.holds_nil, ?_⟩
    · rw [← hd, Text.crlfPlace_le_iff]
      exact h.nil_le
    · have hbetween := (hblanks (x := b + 1)).2 h.between
      exact fun x h1 h2 => hbetween x (by omega) h2
    · have hafter := (hgaps (x := d + 3)).2 h.after
      exact fun x h1 h2 => hafter x (by omega) h2

theorem reads_crlf_iff (hreturn : '\r' ∉ s) :
    Reads (crlf s) (crlfPlace s a) (crlfPlace s e) ↔ Reads s a e := by
  have hgap := Text.any_getElem?_crlfPlace (p := isGap) (by decide) s e
  refine ⟨?_, ?_⟩
  · rintro ⟨b', d', h⟩
    obtain ⟨b, rfl, -⟩ := Text.exists_of_getElem?_crlf h.equals (by decide) (by decide)
    obtain ⟨d, rfl, -⟩ := Text.exists_of_getElem?_crlf h.nil_chars.1 (by decide) (by decide)
    exact ⟨b, d, assigns_crlf_iff.1 h.toAssigns, hgap ▸ h.not_gap,
      (endsLine_crlf_iff hreturn).1 h.endsLine⟩
  · rintro ⟨b, d, h⟩
    exact ⟨_, _, assigns_crlf_iff.2 h.toAssigns, hgap.symm ▸ h.not_gap,
      (endsLine_crlf_iff hreturn).2 h.endsLine⟩

/-- A tail ends with a letter, a space or a tab, so not between the characters of a line end. -/
theorem exists_of_reads_crlf {a' e' : Nat} (h : Reads (crlf s) a' e') :
    ∃ e, e' = crlfPlace s e := by
  obtain ⟨b, d, h⟩ := h
  have hnil := h.nil_le
  obtain ⟨e, he | ⟨hfeed, he⟩⟩ := Text.exists_crlfPlace s e'
  · exact ⟨e, he⟩
  · have hreturn : (crlf s)[e' - 1]? = some '\r' := by
      rw [he, Nat.add_sub_cancel, Text.getElem?_crlfPlace_of_feed hfeed]
    rcases Nat.eq_or_lt_of_le hnil with heq | hlt
    · have hl := h.nil_chars.2.2
      rw [show d + 2 = e' - 1 by omega, hreturn] at hl
      exact absurd hl (by decide)
    · have hgap := h.after (e' - 1) (by omega) (by omega)
      rw [hreturn] at hgap
      exact absurd hgap (by decide)

theorem signAt_crlf_iff (hreturn : '\r' ∉ s) (hc : s[c]? = some ':') :
    SignAt (crlf s) (Reads (crlf s)) (crlfPlace s c) (crlfPlace s q) (crlfPlace s e) ↔
      SignAt s (Reads s) c q e ∧ ¬FeedDeclaratorAt s (c + 1) := by
  have hplace := crlfPlace_succ_of_eq hc (by decide)
  have hsign : (crlf s)[crlfPlace s q]? = some '?' ↔ s[q]? = some '?' :=
    Text.getElem?_crlfPlace_eq_iff (by decide) (by decide)
  refine ⟨fun h => ?_, ?_⟩
  · have hlt : c < q := Text.crlfPlace_lt_iff.1 h.lt
    have hq := hsign.1 h.sign
    have hu := h.unbroken
    rw [← hplace, unbroken_crlf_iff hlt hq (by decide) (by decide)] at hu
    refine ⟨⟨hlt, hq, ?_, hu.1⟩, hu.2⟩
    rw [← reads_crlf_iff hreturn, crlfPlace_succ_of_eq hq (by decide)]
    exact h.tail
  · rintro ⟨h, hf⟩
    refine ⟨Text.crlfPlace_lt_iff.2 h.lt, hsign.2 h.sign, ?_, ?_⟩
    · rw [← crlfPlace_succ_of_eq h.sign (by decide), reads_crlf_iff hreturn]
      exact h.tail
    · rw [← hplace, unbroken_crlf_iff h.lt h.sign (by decide) (by decide)]
      exact ⟨h.unbroken, hf⟩

theorem form_crlf_iff (hreturn : '\r' ∉ s) :
    Form (crlf s) (Reads (crlf s)) (crlfPlace s p) (crlfPlace s c) (crlfPlace s q) (m.inCrlf s) ↔
      Form s (Reads s) p c q m ∧ ¬FeedDeclaratorAt s (p + 3) ∧ ¬FeedDeclaratorAt s (c + 1) := by
  refine ⟨fun h => ?_, ?_⟩
  · have hk := keywordAt_crlf_iff.1 h.keyword
    obtain ⟨hname, hkeyword⟩ := (nameEndsAt_crlf_iff hk).1 h.name
    obtain ⟨hsign, hcolon⟩ := (signAt_crlf_iff hreturn hname.colon).1 h.sign
    have hstart := h.span_start
    rw [← crlfPlace_succ_of_eq hsign.sign (by decide)] at hstart
    refine ⟨⟨hk, hname, hsign, fun x e hx => ?_, Text.crlfPlace_inj.1 hstart,
      Text.crlfPlace_inj.1 h.extent_start, Text.crlfPlace_inj.1 h.extent_stop⟩, hkeyword, hcolon⟩
    have hx' := (signAt_crlf_iff hreturn hname.colon).2 ⟨hx, hcolon⟩
    exact Text.crlfPlace_le_iff.1 (h.least _ _ hx')
  · rintro ⟨h, hkeyword, hcolon⟩
    refine ⟨keywordAt_crlf_iff.2 h.keyword, (nameEndsAt_crlf_iff h.keyword).2 ⟨h.name, hkeyword⟩,
      (signAt_crlf_iff hreturn h.name.colon).2 ⟨h.sign, hcolon⟩, fun x' e' hx => ?_, ?_,
      Text.crlfPlace_inj.2 h.extent_start, Text.crlfPlace_inj.2 h.extent_stop⟩
    · obtain ⟨x, rfl, -⟩ := Text.exists_of_getElem?_crlf hx.sign (by decide) (by decide)
      obtain ⟨e, rfl⟩ := exists_of_reads_crlf hx.tail
      have hx := ((signAt_crlf_iff hreturn h.name.colon).1 hx).1
      exact Text.crlfPlace_le_iff.2 (h.least x e hx)
    · rw [← crlfPlace_succ_of_eq h.sign.sign (by decide)]
      exact Text.crlfPlace_inj.2 h.span_start

theorem exists_of_declares_crlf {p' : Nat} {m' : Match}
    (h : Declares (crlf s) (Reads (crlf s)) p' m') :
    ∃ (p : Nat) (m : Match), p' = crlfPlace s p ∧ m' = m.inCrlf s := by
  obtain ⟨c', q', h⟩ := h
  obtain ⟨p, rfl, -⟩ := Text.exists_of_getElem?_crlf (Text.holdsAt_cons.1 h.keyword.holds).1
    (by decide) (by decide)
  obtain ⟨q, rfl, hq⟩ := Text.exists_of_getElem?_crlf h.sign.sign (by decide) (by decide)
  obtain ⟨e, he⟩ := exists_of_reads_crlf h.sign.tail
  have hplace := crlfPlace_succ_of_eq hq (by decide)
  have hname := h.name.le
  have hlt := h.sign.lt
  have htail := h.sign.tail.le
  have hqe : q + 1 ≤ e := by
    rw [← Text.crlfPlace_le_iff (s := s)]
    omega
  have hpe : p ≤ e := by
    rw [← Text.crlfPlace_le_iff (s := s)]
    omega
  refine ⟨p, ⟨⟨q + 1, e, hqe⟩, ⟨p, e, hpe⟩⟩, rfl, ?_⟩
  have hspan : m'.span = Span.inCrlf s ⟨q + 1, e, hqe⟩ :=
    Span.eq_of_bounds (h.span_start.trans hplace.symm) he
  have hextent : m'.extent = Span.inCrlf s ⟨p, e, hpe⟩ :=
    Span.eq_of_bounds h.extent_start (h.extent_stop.trans he)
  cases m'
  exact congr (congrArg Match.mk hspan) hextent

/-- A declaration is one in the text with carriage returns, unless a declarator on the next line
stands right behind its keyword or its colon. -/
theorem declares_crlf_iff (hreturn : '\r' ∉ s) :
    Declares (crlf s) (Reads (crlf s)) (crlfPlace s p) (m.inCrlf s) ↔
      Declares s (Reads s) p m ∧ StaysInLine s m := by
  refine ⟨?_, ?_⟩
  · rintro ⟨c', q', h⟩
    obtain ⟨c, rfl, -⟩ := Text.exists_of_getElem?_crlf h.name.colon (by decide) (by decide)
    obtain ⟨q, rfl, -⟩ := Text.exists_of_getElem?_crlf h.sign.sign (by decide) (by decide)
    obtain ⟨hform, hkeyword, hcolon⟩ := (form_crlf_iff hreturn).1 h
    refine ⟨⟨c, q, hform⟩, ?_, fun c' hc' => ?_⟩
    · rwa [hform.extent_start]
    · rw [hform.extent_start] at hc'
      rwa [hc'.unique hform.name]
  · rintro ⟨⟨c, q, h⟩, hkeyword, hcolon⟩
    rw [h.extent_start] at hkeyword hcolon
    exact ⟨_, _, (form_crlf_iff hreturn).2 ⟨h, hkeyword, hcolon c h.name⟩⟩

/-- An item that holds one more carriage return overlaps nothing more that begins with a letter. -/
theorem avoids_crlf_iff {is js : List Item} (h : List.Forall₂ (IsCrlf s) is js) {a : Span}
    (ha : s[a.start]? ≠ some '\n') : Avoids js (a.inCrlf s) ↔ Avoids is a := by
  induction h with
  | nil => simp [Avoids]
  | @cons i j is js hij _ ih =>
    have hhead : j.span.intersects (a.inCrlf s) = false ↔ i.span.intersects a = false := by
      rw [Bool.eq_false_iff, Bool.eq_false_iff, ne_eq, ne_eq, Span.intersects_iff,
        Span.intersects_iff, hij.start_eq]
      change ¬(crlfPlace s i.span.start < crlfPlace s a.stop ∧
        crlfPlace s a.start < j.span.stop) ↔ _
      rw [Text.crlfPlace_lt_iff]
      rcases hij.stop_eq with hstop | ⟨hfeed, hstop⟩
      · rw [hstop, Text.crlfPlace_lt_iff]
      · have hne : a.start ≠ i.span.stop := by
          intro he
          exact ha (he ▸ hfeed)
        rw [hstop, Nat.lt_succ_iff, Text.crlfPlace_le_iff, Nat.le_iff_lt_or_eq, or_iff_left hne]
    unfold Avoids at ih ⊢
    rw [List.forall_mem_cons, List.forall_mem_cons, hhead, ih]

theorem Declares.start_ne_feed (h : Declares s (Reads s) p m) : s[m.extent.start]? ≠ some '\n' := by
  obtain ⟨c, q, h⟩ := h
  rw [h.extent_start, (Text.holdsAt_cons.1 h.keyword.holds).1]
  decide

/-- Nothing is declared between the characters of a line end. -/
theorem not_declares_crlf_succ (hp : s[p]? = some '\n') :
    ¬Declares (crlf s) (Reads (crlf s)) (crlfPlace s p + 1) m := by
  intro h
  obtain ⟨p', m', hp', -⟩ := exists_of_declares_crlf h
  have hlt : p < p' := by
    rw [← Text.crlfPlace_lt_iff (s := s)]
    omega
  have hle : crlfPlace s (p + 1) ≤ crlfPlace s p' := Text.crlfPlace_le_iff.2 hlt
  rw [Text.crlfPlace_succ_of_feed hp] at hle
  omega

theorem walk_crlf (hreturn : '\r' ∉ s)
    (hitems : List.Forall₂ (IsCrlf s) (items s) (items (crlf s))) {ms : List Match}
    (h : Walk s.length (Declares s (Reads s)) (Avoids (items s)) p ms)
    (hms : ∀ m ∈ ms, StaysInLine s m) :
    Walk (crlf s).length (Declares (crlf s) (Reads (crlf s))) (Avoids (items (crlf s)))
      (crlfPlace s p) (ms.map (Match.inCrlf s)) := by
  induction h with
  | stop past =>
    apply Walk.stop
    rw [← Text.crlfPlace_length, Text.crlfPlace_lt_iff]
    exact past
  | @report p m ms inside declared isFree rest ih =>
    obtain ⟨hm, hms⟩ := List.forall_mem_cons.1 hms
    refine .report ?_ ((declares_crlf_iff hreturn).2 ⟨declared, hm⟩)
      ((avoids_crlf_iff hitems declared.start_ne_feed).2 isFree) (ih hms)
    rw [← Text.crlfPlace_length, Text.crlfPlace_le_iff]
    exact inside
  | @advance p ms inside blocked rest ih =>
    have hinside : crlfPlace s p ≤ (crlf s).length := by
      rw [← Text.crlfPlace_length, Text.crlfPlace_le_iff]
      exact inside
    have hblocked : ∀ m', Declares (crlf s) (Reads (crlf s)) (crlfPlace s p) m' →
        ¬Avoids (items (crlf s)) m'.extent := by
      intro m' hd
      obtain ⟨-, m, -, rfl⟩ := exists_of_declares_crlf hd
      have hd := ((declares_crlf_iff hreturn).1 hd).1
      exact fun hfree => blocked m hd ((avoids_crlf_iff hitems hd.start_ne_feed).1 hfree)
    have hrest := ih hms
    by_cases hfeed : s[p]? = some '\n'
    · rw [Text.crlfPlace_succ_of_feed hfeed] at hrest
      refine .advance hinside hblocked (.advance ?_ (fun m hd => ?_) hrest)
      · obtain ⟨hlt, -⟩ := List.getElem?_eq_some_iff.1 (Text.getElem?_crlfPlace_succ hfeed)
        exact Nat.le_of_lt hlt
      · exact absurd hd (not_declares_crlf_succ hfeed)
    · rw [Text.crlfPlace_succ_of_ne hfeed] at hrest
      exact .advance hinside hblocked hrest

/-- Where no escape takes a line feed from a literal of one quote, a text and the same text with
carriage returns have the same matches exactly when no match has a declarator on the next line right
behind its keyword or its colon. -/
theorem find_crlf_iff {s : Text} (hreturn : '\r' ∉ s) (hkept : KeepsFeeds s) :
    find (crlf s) (classify (crlf s)) = (find s (classify s)).map (Match.inCrlf s) ↔
      ∀ m ∈ find s (classify s), StaysInLine s m := by
  have hwalk := walk_find_ofList s (items s)
  have hwalk' := walk_find_ofList (crlf s) (items (crlf s))
  refine ⟨fun h m hm => ?_, fun h => ?_⟩
  · have hm' : m.inCrlf s ∈ find (crlf s) (classify (crlf s)) := h ▸ List.mem_map_of_mem hm
    obtain ⟨q, hd, -⟩ := hwalk'.of_mem hm'
    have hq : q = crlfPlace s m.extent.start := hd.start_eq.symm
    exact ((declares_crlf_iff hreturn).1 (hq ▸ hd)).2
  · have hmap := walk_crlf hreturn (Syntax.items_crlf hkept) hwalk h
    rw [Text.crlfPlace_zero] at hmap
    exact hwalk'.unique hmap fun _ _ _ => Declares.unique_reads

/-- A literal of three quotes in which an escape takes a line feed, and a declaration behind it. -/
theorem find_crlf_iff_of_continued_line :
    let s := "let a = \"\"\"\n\\\n\"\"\"\nvar b: T?\n= nil\n".toList
    '\r' ∉ s ∧ KeepsFeeds s ∧
      (find (crlf s) (classify (crlf s)) = (find s (classify s)).map (Match.inCrlf s) ↔
        ∀ m ∈ find s (classify s), StaysInLine s m) := by
  intro s
  have hitems : items s = [⟨.string, ⟨8, 17, by decide⟩⟩] := by decide +kernel
  have hkept : KeepsFeeds s := by
    intro i hi o r ho
    rw [hitems, List.mem_singleton] at hi
    subst hi
    obtain ⟨rfl, rfl⟩ := Prod.mk.inj (Option.some.inj ho)
    refine .plain (by decide) (by decide) (by decide) ?_
    refine .escaped (d := '\n') (by decide) rfl (by decide) (by decide) ?_
    exact .closing rfl .closed
  exact ⟨by decide, hkept, find_crlf_iff (by decide) hkept⟩

/-- An escape takes a line feed from a literal, and a declarator stands on the line behind a colon:
both times the matches are others with carriage returns. -/
theorem find_crlf_differs :
    let s := "\"\\\nvar a: T? = nil".toList
    let t := "var a:\nlet b: T? = nil".toList
    ('\r' ∉ s ∧ find (crlf s) (classify (crlf s)) ≠ (find s (classify s)).map (Match.inCrlf s)) ∧
      '\r' ∉ t ∧ find (crlf t) (classify (crlf t)) ≠ (find t (classify t)).map (Match.inCrlf t) := by
  intro s t
  exact ⟨⟨by decide, by decide +kernel⟩, by decide, by decide +kernel⟩

end Declaration

end PatternLint
