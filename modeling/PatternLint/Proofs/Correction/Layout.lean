import PatternLint.Proofs.Correction.Outcome
import PatternLint.Proofs.Syntax.Seen

/-! A correction keeps the layout of a file: its lines, its comments and literals, and its
directives. What it blanks out holds no delimiter, so the search for items sees the same text; and
it lies outside every comment. -/

namespace PatternLint

namespace Source

variable {source other : Source}

theorem lineStarts_congr (h : other.contents.map Syntax.seen = source.contents.map Syntax.seen) :
    other.lineStarts = source.lineStarts := by
  unfold lineStarts
  rw [← Syntax.lineStartsFrom_map_seen, h, Syntax.lineStartsFrom_map_seen]

theorem length_congr (h : other.contents.map Syntax.seen = source.contents.map Syntax.seen) :
    other.length = source.length := by
  have := congrArg List.length h
  rwa [List.length_map, List.length_map] at this

theorem lineOf_congr (h : other.lineStarts = source.lineStarts) (offset : Nat) :
    other.lineOf offset = source.lineOf offset := by
  unfold lineOf
  rw [h]

theorem locate_congr (h : other.lineStarts = source.lineStarts) (hpath : other.path = source.path)
    (offset : Nat) : other.locate offset = source.locate offset := by
  unfold locate
  rw [lineOf_congr h, h, hpath]

end Source

namespace OptionalInitialization

open Syntax (seen)

variable {s : Text} {source : Source}

/-- Blanking out an assignment of `nil` cannot be seen. -/
theorem seen_blankOut {c : Char} (h : isBlank c = true ∨ c ∈ Declaration.marks) :
    seen (blankOut c) = seen c := by
  rcases h with h | h
  · rw [blankOut, if_pos h]
  · rw [blankOut_of_mark h]
    simp only [Declaration.marks, List.mem_cons, List.not_mem_nil, or_false] at h
    rcases h with rfl | rfl | rfl | rfl
    · decide
    · decide
    · decide
    · decide

theorem map_seen_blanked {spans : List Span}
    (h : ∀ a ∈ spans, Declaration.Reads s a.start a.stop) :
    (blanked s spans).map seen = s.map seen := by
  refine List.ext_getElem? fun i => ?_
  rw [List.getElem?_map, List.getElem?_map, getElem?_blanked]
  split
  · rename_i hc
    obtain ⟨a, ha, h1, h2⟩ := hc
    obtain ⟨b, d, ht⟩ := h a ha
    rw [Option.map_map]
    by_cases hi : i = b ∨ d ≤ i ∧ i < d + 3
    · obtain ⟨c, hc, hmark⟩ := ht.mark_at hi
      rw [hc, Option.map_some, Option.map_some]
      exact congrArg some (seen_blankOut (.inr hmark))
    · obtain ⟨c, hc, hblank⟩ := (Option.any_eq_true _ _).1 (ht.blank_at h1 h2 hi)
      rw [hc, Option.map_some, Option.map_some]
      exact congrArg some (seen_blankOut (.inl hblank))
  · rfl

/-- A file after its correction. -/
def afterwards (source : Source) : Source :=
  { source with contents := blanked source.contents (enabledSpans (.build Syntax.classify source)) }

theorem map_seen_afterwards (source : Source) :
    (afterwards source).contents.map seen = source.contents.map seen :=
  map_seen_blanked fun _ => reads_of_mem_enabledSpans

theorem lineStarts_afterwards (source : Source) :
    (afterwards source).lineStarts = source.lineStarts :=
  Source.lineStarts_congr (map_seen_afterwards source)

theorem length_afterwards (source : Source) : (afterwards source).length = source.length :=
  Source.length_congr (map_seen_afterwards source)

theorem items_afterwards (source : Source) :
    Syntax.items (afterwards source).contents = Syntax.items source.contents :=
  Syntax.items_eq_of_map_seen (map_seen_afterwards source)

theorem classify_afterwards (source : Source) :
    Syntax.classify (afterwards source).contents = Syntax.classify source.contents :=
  congrArg Syntax.ExcludedSet.ofList (items_afterwards source)

/-- The text of an item is not touched. -/
theorem text_afterwards {i : Syntax.Item} (hi : i ∈ Syntax.items source.contents) :
    (afterwards source).text i.span = source.text i.span := by
  apply Text.slice_congr
  intro x h1 h2
  unfold afterwards
  rw [getElem?_blanked, if_neg]
  intro hc
  obtain ⟨a, ha, h3, h4⟩ := hc
  obtain ⟨m, hm, rfl⟩ := exists_match_of_mem_enabledSpans ha
  obtain ⟨hd, hfree⟩ := declares_of_mem_enabled hm
  have hstart := hd.start_lt_span
  have hstop := hd.stop_eq
  exact (Syntax.ExcludedSet.avoids_iff.2 hfree).not_covered (by omega) (by omega)
    ⟨i.span, List.mem_map_of_mem hi, h1, h2⟩

theorem directives_afterwards (source : Source) :
    Region.directives (afterwards source) (Syntax.classify (afterwards source).contents) =
      Region.directives source (Syntax.classify source.contents) := by
  rw [classify_afterwards]
  unfold Region.directives
  rw [List.flatMap_def, List.flatMap_def]
  refine congrArg List.flatten (List.map_congr_left fun a ha => ?_)
  obtain ⟨i, hi, rfl⟩ := Syntax.ExcludedSet.exists_of_mem_ofKind ha
  simp only [text_afterwards hi, Source.lineOf_congr (lineStarts_afterwards source)]

theorem enabledAt_afterwards (source : Source) (rule : String) (offset : Nat) :
    (Context.build Syntax.classify (afterwards source)).regions.enabledAt rule offset =
      (Context.build Syntax.classify source).regions.enabledAt rule offset := by
  have hdirectives : (Context.build Syntax.classify (afterwards source)).regions.directives =
      (Context.build Syntax.classify source).regions.directives :=
    congrArg (·.mergeSort fun a b => a.offset ≤ b.offset) (directives_afterwards source)
  have hline : (Context.build Syntax.classify (afterwards source)).regions.source.lineOf offset =
      (Context.build Syntax.classify source).regions.source.lineOf offset :=
    Source.lineOf_congr (lineStarts_afterwards source) offset
  unfold Regions.enabledAt
  rw [hdirectives, hline]

/-- A correction changes neither the lines of a file nor the place of any offset, nor what is a
comment or a string literal, nor the directives, nor where any rule is enabled. -/
theorem correct_keeps_layout (source : Source) :
    let context := Context.build Syntax.classify source
    ∃ corrected, correct context = .ok corrected ∧
      let after := { source with contents := corrected.contents }
      after.lineStarts = source.lineStarts ∧
      (∀ offset, after.location? offset = source.location? offset) ∧
      Syntax.items after.contents = Syntax.items source.contents ∧
      Syntax.classify after.contents = Syntax.classify source.contents ∧
      Region.directives after (Syntax.classify after.contents) =
        Region.directives source (Syntax.classify source.contents) ∧
      ∀ rule offset, (Context.build Syntax.classify after).regions.enabled? rule offset =
        context.regions.enabled? rule offset := by
  intro context
  refine ⟨_, correct_eq_ok context, lineStarts_afterwards source, fun offset => ?_,
    items_afterwards source, classify_afterwards source, directives_afterwards source,
    fun rule offset => ?_⟩
  · change (afterwards source).location? offset = source.location? offset
    unfold Source.location?
    rw [length_afterwards, Source.locate_congr (lineStarts_afterwards source) rfl]
  · change (Context.build Syntax.classify (afterwards source)).regions.enabled? rule offset = _
    have hlength : (Context.build Syntax.classify (afterwards source)).regions.source.length =
        context.regions.source.length := length_afterwards source
    have hline (offset : Nat) :
        (Context.build Syntax.classify (afterwards source)).regions.source.lineOf offset =
          context.regions.source.lineOf offset :=
      Source.lineOf_congr (lineStarts_afterwards source) offset
    unfold Regions.enabled? Source.line?
    rw [hlength, hline, enabledAt_afterwards]

end OptionalInitialization

end PatternLint
