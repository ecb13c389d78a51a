import PatternLint.Proofs.Correction.Layout
import PatternLint.Proofs.Correction.Tails

/-! Correcting a file a second time. A tail that has been blanked out is blank, so the declaration
it ended now runs on, and what reads as a tail may be one that begins where the old one ended. The
second correction is described by the first file alone, with tails read past those that are
corrected; it finds nothing left exactly when that description is empty of enabled matches. -/

namespace PatternLint

namespace Declaration

variable {s : Text} {a a' e : Nat}

/-- Blanks before the equals sign may be left out. -/
theorem reads_iff_of_blank (hle : a ≤ a') (hblank : ∀ x, a ≤ x → x < a' → s[x]?.any isBlank) :
    Reads s a e ↔ Reads s a' e := by
  refine ⟨?_, ?_⟩
  · intro hr
    obtain ⟨b, d, h⟩ := hr
    have hb : a' ≤ b := by
      apply Nat.le_of_not_lt
      intro hlt
      exact ne_of_any_isBlank (hblank b h.le hlt) not_isBlank_equals h.equals
    exact ⟨b, d, { h with le := hb, before := fun x h1 h2 => h.before x (Nat.le_trans hle h1) h2 }⟩
  · intro hr
    obtain ⟨b, d, h⟩ := hr
    refine ⟨b, d, { h with le := Nat.le_trans hle h.le, before := fun x h1 h2 => ?_ }⟩
    rcases Nat.lt_or_ge x a' with hlt | hge
    · exact hblank x h1 hlt
    · exact h.before x hge h2

end Declaration

namespace OptionalInitialization

open Declaration
open Syntax.ExcludedSet (Avoids)

/-- What reads as a tail from `a` to `e` once the spans are blanked out: where one of them begins,
the tail that follows it. -/
def ReadsPast (s : Text) (spans : List Span) (a e : Nat) : Prop :=
  (∃ x ∈ spans, x.start = a ∧ Reads s x.stop e) ∨ (∀ x ∈ spans, x.start ≠ a) ∧ Reads s a e

theorem readsPast_iff_of_forall_ne {s : Text} {spans : List Span} {a e : Nat}
    (h : ∀ x ∈ spans, x.start ≠ a) : ReadsPast s spans a e ↔ Reads s a e := by
  refine ⟨fun hr => ?_, fun hr => .inr ⟨h, hr⟩⟩
  rcases hr with ⟨x, hx, hstart, -⟩ | ⟨-, hr⟩
  · exact absurd hstart (h x hx)
  · exact hr

namespace Tails

variable {s : Text} {spans : List Span} {x : Span} {a e i j p q c : Nat} {m : Match}
  (h : Tails s spans)
include h

/-- Without question marks on the way, no tail is reached from a place outside them. -/
theorem not_covered_between (ha : ¬Covered spans a) (hq : ∀ x, a ≤ x → x < j → s[x]? ≠ some '?')
    (h1 : a ≤ i) (h2 : i ≤ j) : ¬Covered spans i := by
  intro hcov
  obtain ⟨y, hy, hy1, hy2⟩ := hcov
  obtain ⟨q, hstart, hsign⟩ := h.sign y hy
  rcases Nat.lt_or_ge q a with hlt | hge
  · exact ha ⟨y, hy, by omega, by omega⟩
  · exact hq q hge (by omega) hsign

theorem reads_blanked_iff_of_not_covered (ha : ¬Covered spans a) :
    Reads (blanked s spans) a e ↔ Reads s a e := by
  have hsign (x : Nat) : (blanked s spans)[x]? = some '?' ↔ s[x]? = some '?' :=
    h.getElem?_blanked_eq_some_iff (by decide)
  refine ⟨?_, ?_⟩
  · intro hr
    obtain ⟨b, d, ht⟩ := hr
    have hclear {x : Nat} : a ≤ x → x ≤ e + 1 → ¬Covered spans x :=
      h.not_covered_between ha fun x h1 h2 hx =>
        ht.ne_sign h1 (Nat.le_of_lt_succ h2) ((hsign x).2 hx)
    exact ⟨b, d, ht.congr fun x h1 h2 => (getElem?_blanked_of_not_covered (hclear h1 h2)).symm⟩
  · intro hr
    obtain ⟨b, d, ht⟩ := hr
    have hclear {x : Nat} : a ≤ x → x ≤ e + 1 → ¬Covered spans x :=
      h.not_covered_between ha fun x h1 h2 => ht.ne_sign h1 (Nat.le_of_lt_succ h2)
    exact ⟨b, d, ht.congr fun x h1 h2 => getElem?_blanked_of_not_covered (hclear h1 h2)⟩

theorem start_lt_stop (hx : x ∈ spans) : x.start < x.stop := by
  obtain ⟨b, d, ht⟩ := h.reads x hx
  have := ht.le
  have := ht.lt
  have := ht.nil_le
  omega

theorem not_covered_stop (hx : x ∈ spans) : ¬Covered spans x.stop := by
  intro hcov
  obtain ⟨y, hy, hy1, hy2⟩ := hcov
  obtain ⟨q, hstart, hsign⟩ := h.sign y hy
  have hpos := h.start_lt_stop hx
  rcases h.apart.disjoint hx hy with rfl | hxy | hyx
  · omega
  · exact h.not_covered_of_plain hsign (by decide) ⟨x, hx, by omega, by omega⟩
  · omega

theorem readsPast_iff_of_mem (hx : x ∈ spans) :
    ReadsPast s spans x.start e ↔ Reads s x.stop e := by
  refine ⟨fun hr => ?_, fun hr => .inl ⟨x, hx, rfl, hr⟩⟩
  rcases hr with ⟨y, hy, hstart, hr⟩ | ⟨hnone, -⟩
  · have hpos := h.start_lt_stop hx
    have hpos' := h.start_lt_stop hy
    rcases h.apart.disjoint hx hy with rfl | hxy | hyx
    · exact hr
    · omega
    · omega
  · exact absurd rfl (hnone x hx)

theorem any_isBlank_blanked (hi : Covered spans i) : (blanked s spans)[i]?.any isBlank := by
  obtain ⟨x, hx, h1, h2⟩ := hi
  obtain ⟨b, d, ht⟩ := h.reads x hx
  have hlen := ht.stop_le_length
  rw [getElem?_blanked, if_pos ⟨x, hx, h1, h2⟩, List.getElem?_eq_getElem (by omega),
    Option.map_some, Option.any_some, isBlank_blankOut]

/-- Behind a question mark, what reads as a tail afterwards. -/
theorem reads_blanked_iff (hq : s[q]? = some '?') :
    Reads (blanked s spans) (q + 1) e ↔ ReadsPast s spans (q + 1) e := by
  by_cases hx : ∃ x ∈ spans, x.start = q + 1
  · obtain ⟨x, hx, hstart⟩ := hx
    have hpos := h.start_lt_stop hx
    rw [← hstart, h.readsPast_iff_of_mem hx,
      ← h.reads_blanked_iff_of_not_covered (h.not_covered_stop hx)]
    exact reads_iff_of_blank (Nat.le_of_lt hpos) fun y h1 h2 =>
      h.any_isBlank_blanked ⟨x, hx, h1, h2⟩
  · have hnone : ∀ x ∈ spans, x.start ≠ q + 1 := fun x hx' hstart => hx ⟨x, hx', hstart⟩
    have hclear : ¬Covered spans (q + 1) := by
      intro hcov
      obtain ⟨y, hy, h1, h2⟩ := hcov
      have hne := hnone y hy
      exact h.not_covered_of_plain hq (by decide) ⟨y, hy, by omega, by omega⟩
    rw [h.reads_blanked_iff_of_not_covered hclear]
    exact (readsPast_iff_of_forall_ne hnone).symm

theorem signAt_blanked_iff : SignAt (blanked s spans) (Reads (blanked s spans)) c q e ↔
    SignAt s (ReadsPast s spans) c q e := by
  have hsign : (blanked s spans)[q]? = some '?' ↔ s[q]? = some '?' :=
    h.getElem?_blanked_eq_some_iff (by decide)
  refine ⟨?_, ?_⟩
  · intro hr
    obtain ⟨hlt, hq, ht, hu⟩ := hr
    have hq := hsign.1 hq
    exact ⟨hlt, hq, (h.reads_blanked_iff hq).1 ht, h.unbroken_blanked_iff.1 hu⟩
  · intro hr
    obtain ⟨hlt, hq, ht, hu⟩ := hr
    exact ⟨hlt, hsign.2 hq, (h.reads_blanked_iff hq).2 ht, h.unbroken_blanked_iff.2 hu⟩

/-- The declarations of a text with its tails blanked out, by the text as it was. -/
theorem declares_blanked_iff : Declares (blanked s spans) (Reads (blanked s spans)) p m ↔
    Declares s (ReadsPast s spans) p m := by
  refine ⟨?_, ?_⟩
  · intro hr
    obtain ⟨c, q, hf⟩ := hr
    exact ⟨c, q, { hf with
      keyword := h.keywordAt_blanked_iff.1 hf.keyword
      name := h.nameEndsAt_blanked_iff.1 hf.name
      sign := h.signAt_blanked_iff.1 hf.sign
      least := fun x e hx => hf.least x e (h.signAt_blanked_iff.2 hx) }⟩
  · intro hr
    obtain ⟨c, q, hf⟩ := hr
    exact ⟨c, q, { hf with
      keyword := h.keywordAt_blanked_iff.2 hf.keyword
      name := h.nameEndsAt_blanked_iff.2 hf.name
      sign := h.signAt_blanked_iff.2 hf.sign
      least := fun x e hx => hf.least x e (h.signAt_blanked_iff.1 hx) }⟩

/-- Nothing is blanked out without spans only. -/
theorem blanked_eq_self_iff : blanked s spans = s ↔ spans = [] := by
  refine ⟨?_, ?_⟩
  · intro hs
    apply List.eq_nil_iff_forall_not_mem.2
    intro x hx
    obtain ⟨b, d, ht⟩ := h.reads x hx
    have hlt := ht.lt
    have hnil := ht.nil_le
    have hb := getElem?_blanked_tail hx ht.toAssigns ht.le (by omega)
    rw [hs, ht.equals, if_pos (.inl rfl)] at hb
    exact absurd (Option.some.inj hb) (by decide)
  · intro hr
    obtain rfl := hr
    exact blanked_nil s

end Tails

/-- Whether directives are there or not, the enabled matches are those at enabled places. -/
theorem enabledMatches_eq_filter (context : Context) : enabledMatches context =
    (find context.source.contents context.excluded).filter fun m =>
      context.regions.enabledAt description.identifier m.span.start := by
  unfold enabledMatches Regions.filter
  split
  · rfl
  · rename_i hany
    have hnone : context.regions.directives = [] := by
      unfold Regions.any at hany
      simpa using hany
    refine (List.filter_eq_self.2 fun m _ => ?_).symm
    unfold Regions.enabledAt Regions.decide
    rw [hnone]
    rfl

/-- What a second look at a file finds, told by the file before its correction: the declarations
whose tails are read past those that are corrected. -/
def SecondWalk (source : Source) (ms : List Match) : Prop :=
  Walk source.contents.length
    (Declares source.contents
      (ReadsPast source.contents (enabledSpans (.build Syntax.classify source))))
    (Avoids (Syntax.items source.contents)) 0 ms

/-- No match of the second look is enabled. -/
def Settled (source : Source) : Prop :=
  ∀ ms, SecondWalk source ms → ∀ m ∈ ms, (Context.build Syntax.classify source).regions.enabledAt
    description.identifier m.span.start = false

theorem secondWalk_iff (source : Source) (ms : List Match) : SecondWalk source ms ↔
    Walk (afterwards source).contents.length
      (Declares (afterwards source).contents (Reads (afterwards source).contents))
      (Avoids (Syntax.items (afterwards source).contents)) 0 ms := by
  have hdeclares : Declares (afterwards source).contents (Reads (afterwards source).contents) =
      Declares source.contents
        (ReadsPast source.contents (enabledSpans (.build Syntax.classify source))) :=
    funext fun p => funext fun m =>
      propext (tails_enabledSpans (.build Syntax.classify source)).declares_blanked_iff
  have hlength : (afterwards source).contents.length = source.contents.length :=
    length_afterwards source
  unfold SecondWalk
  rw [hdeclares, hlength, items_afterwards]

theorem find_afterwards_eq_iff (source : Source) (ms : List Match) :
    find (afterwards source).contents (Syntax.classify (afterwards source).contents) = ms ↔
      SecondWalk source ms := by
  have hwalk := walk_find_ofList (afterwards source).contents
    (Syntax.items (afterwards source).contents)
  rw [secondWalk_iff]
  refine ⟨?_, ?_⟩
  · intro hr
    obtain rfl := hr
    exact hwalk
  · intro h
    exact hwalk.unique h fun _ _ _ => Declares.unique_reads

theorem enabledMatches_afterwards_eq_nil_iff (source : Source) :
    enabledMatches (.build Syntax.classify (afterwards source)) = [] ↔ Settled source := by
  have hfind := (find_afterwards_eq_iff source _).1 rfl
  rw [enabledMatches_eq_filter, List.filter_eq_nil_iff]
  simp only [enabledAt_afterwards, Bool.not_eq_true]
  refine ⟨?_, ?_⟩
  · intro h ms hms
    obtain rfl := (find_afterwards_eq_iff source ms).2 hms
    exact h
  · intro h
    exact h _ hfind

/-- With the rule enabled everywhere, the order of the walk does not matter. -/
theorem settled_iff_of_enabled {source : Source} (h : ∀ offset,
    (Context.build Syntax.classify source).regions.enabledAt description.identifier offset = true) :
    Settled source ↔ ∀ p m, Declares source.contents
      (ReadsPast source.contents (enabledSpans (.build Syntax.classify source))) p m →
        ¬Avoids (Syntax.items source.contents) m.extent := by
  have hfind := (find_afterwards_eq_iff source _).1 rfl
  refine ⟨?_, ?_⟩
  · intro hs p m hd
    refine hfind.not_free_of_nil ?_ (Nat.zero_le p) hd.le_length hd
    apply List.eq_nil_iff_forall_not_mem.2
    intro m' hm'
    have hm' := hs _ hfind m' hm'
    rw [h] at hm'
    contradiction
  · intro hs ms hms m hm
    obtain ⟨q, hd, hfree⟩ := hms.of_mem hm
    exact absurd hfree (hs q m hd)

/-- A corrected file has no violation left, and a second correction changes nothing, exactly when
the file is settled: when no enabled match is found in it with tails read past the corrected
ones. With the rule enabled everywhere, that is when no such declaration lies outside comments and
string literals. -/
theorem correct_twice_iff (source : Source) (severity : Severity) :
    let context := Context.build Syntax.classify source
    ∃ corrected again, correct context = .ok corrected ∧
      let context' := Context.build Syntax.classify { source with contents := corrected.contents }
      correct context' = .ok again ∧
      (validate severity context' = [] ↔ Settled source) ∧
      (again.contents = corrected.contents ↔ Settled source) ∧
      ((∀ offset, context.regions.enabledAt description.identifier offset = true) →
        (Settled source ↔ ∀ p m,
          Declares source.contents (ReadsPast source.contents (enabledSpans context)) p m →
            ¬Avoids (Syntax.items source.contents) m.extent)) := by
  intro context
  refine ⟨_, _, correct_eq_ok context, correct_eq_ok _, ?_, ?_, settled_iff_of_enabled⟩
  · rw [validate, List.map_eq_nil_iff]
    exact enabledMatches_afterwards_eq_nil_iff source
  · have htails := tails_enabledSpans (.build Syntax.classify (afterwards source))
    rw [← enabledMatches_afterwards_eq_nil_iff]
    apply htails.blanked_eq_self_iff.trans
    rw [enabledSpans, List.map_eq_nil_iff]

/-- A tail behind a corrected declaration becomes its own. -/
theorem correct_leaves_violation :
    let source : Source :=
      { contents := "var a: Int? = nil\nfunc f(\n    b: Int? = nil\n) \x7b\x7d".toList }
    ∃ corrected, correct (.build Syntax.classify source) = .ok corrected ∧
      corrected.contents =
        "var a: Int?      \nfunc f(\n    b: Int? = nil\n) \x7b\x7d".toList ∧
      validate .warning (.build Syntax.classify { contents := corrected.contents }) ≠ [] := by
  intro source
  exact ⟨_, correct_eq_ok _, by decide +kernel, by decide +kernel⟩

end OptionalInitialization

end PatternLint
