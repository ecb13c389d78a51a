import PatternLint.Proofs.Correction.Blanking
import PatternLint.Proofs.Declaration.Local

/-! The outcome of correcting a buffer. The enabled matches are apart from one another and each of
their spans is a tail, so no rewrite is refused, whatever classifier found the excluded items; the
result is the buffer with these spans blanked out. -/

namespace PatternLint

namespace Declaration

variable {s : Text} {reads : Nat → Nat → Prop} {p : Nat} {m : Match}

theorem Declares.reads_span (h : Declares s reads p m) : reads m.span.start m.span.stop := by
  obtain ⟨c, q, h⟩ := h
  rw [h.span_start]
  exact h.sign.tail

end Declaration

namespace OptionalInitialization

open Declaration

/-- The spans that a correction rewrites. -/
def enabledSpans (context : Context) : List Span := (enabledMatches context).map Match.span

variable {context : Context} {m : Match}

theorem enabledMatches_sublist (context : Context) :
    (enabledMatches context).Sublist (find context.source.contents context.excluded) := by
  unfold enabledMatches Regions.filter
  split
  · exact List.filter_sublist
  · exact List.Sublist.refl _

theorem declares_of_mem_find {s : Text} {excluded : Syntax.ExcludedSet}
    (hm : m ∈ find s excluded) :
    Declares s (Reads s) m.extent.start m ∧ excluded.intersects m.extent = false := by
  obtain ⟨q, hd, hfree⟩ := (walk_find s excluded).of_mem hm
  rw [hd.start_eq]
  exact ⟨hd, hfree⟩

theorem declares_of_mem_enabled (hm : m ∈ enabledMatches context) :
    Declares context.source.contents (Reads context.source.contents) m.extent.start m ∧
      context.excluded.intersects m.extent = false :=
  declares_of_mem_find ((enabledMatches_sublist context).subset hm)

theorem apart_enabledSpans (context : Context) : Span.Apart (enabledSpans context) := by
  have hw := (walk_find context.source.contents context.excluded).pairwise
    fun _ _ hd => hd.start_eq
  have hp := hw.sublist (enabledMatches_sublist context)
  refine List.pairwise_map.2 (hp.imp_of_mem fun {m m'} hm hm' h => ?_)
  have hstop := (declares_of_mem_enabled hm).1.stop_eq
  have hstart := (declares_of_mem_enabled hm').1.start_lt_span
  omega

theorem exists_match_of_mem_enabledSpans {a : Span} (ha : a ∈ enabledSpans context) :
    ∃ m ∈ enabledMatches context, m.span = a := List.mem_map.1 ha

theorem reads_of_mem_enabledSpans {a : Span} (ha : a ∈ enabledSpans context) :
    Reads context.source.contents a.start a.stop := by
  obtain ⟨m, hm, rfl⟩ := exists_match_of_mem_enabledSpans ha
  exact (declares_of_mem_enabled hm).1.reads_span

theorem stop_le_of_mem_enabledSpans {a : Span} (ha : a ∈ enabledSpans context) :
    a.stop ≤ context.source.contents.length := by
  obtain ⟨b, d, h⟩ := reads_of_mem_enabledSpans ha
  exact h.stop_le_length

theorem onward_enabledSpans (context : Context) :
    blanking.onward assignment.compiled context.source.contents 0 (enabledSpans context) =
      .ok (blanked context.source.contents (enabledSpans context)) := by
  have hstop : ∀ a ∈ enabledSpans context, a.stop ≤ context.source.contents.length :=
    fun _ => stop_le_of_mem_enabledSpans
  rw [Rewrite.onward_eq_ok (apart_enabledSpans context) (fun a _ => Nat.zero_le a.start) hstop
    fun a ha => ?_]
  · exact congrArg Except.ok (spliced_map_blankOut (apart_enabledSpans context) hstop)
  · obtain ⟨b, d, h⟩ := reads_of_mem_enabledSpans ha
    exact piece_blanking (assigns_slice h.toAssigns (hstop a ha)) a.start

/-- A correction is never refused, and blanks out exactly the enabled spans. -/
theorem correct_eq_ok (context : Context) : correct context =
    .ok ⟨blanked context.source.contents (enabledSpans context),
      (enabledSpans context).map fun a =>
        ⟨description.identifier, description.name, context.source.locate a.start⟩⟩ := by
  have hsort := (apart_enabledSpans context).mergeSort_eq
  have honward := onward_enabledSpans context
  rw [correct_eq_ok_iff, plan, Correction.plan]
  change (if enabledSpans context = [] then _ else _) = _
  split
  · rename_i h
    rw [h, blanked_nil]
    rfl
  · change (do
      let contents ← blanking.apply .standard context.source.contents (enabledSpans context)
      return _) = _
    rw [Rewrite.apply_of_read compile_blanking, hsort, honward]
    rfl

theorem blankOut_of_mark {c : Char} (h : c ∈ marks) : blankOut c = ' ' := by
  simp only [marks, List.mem_cons, List.not_mem_nil, or_false] at h
  rcases h with rfl | rfl | rfl | rfl <;> decide

/-- In a tail that is blanked out, the equals sign and `nil` have become spaces. -/
theorem getElem?_blanked_tail {s : Text} {spans : List Span} {a : Span} {b d i : Nat}
    (ha : a ∈ spans) (h : Assigns s a.start b d a.stop) (h1 : a.start ≤ i) (h2 : i < a.stop) :
    (blanked s spans)[i]? = if i = b ∨ d ≤ i ∧ i < d + 3 then some ' ' else s[i]? := by
  rw [getElem?_blanked, if_pos ⟨a, ha, h1, h2⟩]
  split
  · rename_i hi
    obtain ⟨c, hc, hmark⟩ := h.mark_at hi
    rw [hc, Option.map_some, blankOut_of_mark hmark]
  · rename_i hi
    obtain ⟨c, hc, hblank⟩ := (Option.any_eq_true _ _).1 (h.blank_at h1 h2 hi)
    rw [hc, Option.map_some, blankOut, if_pos hblank]

/-- A correction succeeds with any classifier. It keeps every character outside the enabled spans;
inside one it turns the equals sign and `nil` of the tail into spaces and keeps the rest. Its
corrections are the violations, in their order and at their locations. -/
theorem correct_blanks_tails (classifier : Syntax.Classifier) (source : Source)
    (severity : Severity) :
    let context := Context.build classifier source
    ∃ corrected, correct context = .ok corrected ∧
      corrected.contents.length = source.contents.length ∧
      (∀ i, ¬Covered (enabledSpans context) i →
        corrected.contents[i]? = source.contents[i]?) ∧
      (∀ a ∈ enabledSpans context, ∃ b d, TailAt source.contents a.start b d a.stop ∧
        ∀ i, a.start ≤ i → i < a.stop → corrected.contents[i]? =
          if i = b ∨ d ≤ i ∧ i < d + 3 then some ' ' else source.contents[i]?) ∧
      corrected.corrections.map (fun c => (c.ruleId, c.ruleName, c.location)) =
        (validate severity context).map fun v => (v.ruleId, v.ruleName, v.location) := by
  intro context
  refine ⟨_, correct_eq_ok context, length_blanked _ _, fun i hi => ?_, fun a ha => ?_, ?_⟩
  · rw [getElem?_blanked, if_neg hi]
    rfl
  · obtain ⟨b, d, h⟩ := reads_of_mem_enabledSpans ha
    exact ⟨b, d, h, fun i h1 h2 => getElem?_blanked_tail ha h.toAssigns h1 h2⟩
  · simp only [enabledSpans, validate, List.map_map]
    rfl

end OptionalInitialization

end PatternLint
