import PatternLint.Proofs.Correction.Outcome
import PatternLint.Proofs.Linter.Run
import PatternLint.Proofs.Report.Outcomes
import PatternLint.Proofs.Text.Utf8

/-! Autocorrection as it is configured. The tree keeps its names, and of its files only those
change in which something was found; these hold the correction of what they held, in which only
characters of an assignment of `nil` have become spaces. -/

namespace PatternLint

namespace OptionalInitialization

/-- Only characters of an assignment of `nil` differ, and they have become spaces. -/
structure Spaced (text after : Text) : Prop where
  length : after.length = text.length
  char : ∀ i : Nat, after[i]? = text[i]? ∨
    after[i]? = some ' ' ∧ ∃ c ∈ Declaration.marks, text[i]? = some c

theorem spaced_blanked {s : Text} {spans : List Span}
    (h : ∀ a ∈ spans, Declaration.Reads s a.start a.stop) : Spaced s (blanked s spans) where
  length := length_blanked s spans
  char i := by
    by_cases hc : Covered spans i
    · obtain ⟨a, ha, h1, h2⟩ := hc
      obtain ⟨b, d, ht⟩ := h a ha
      rw [getElem?_blanked_tail ha ht.toAssigns h1 h2]
      split
      · rename_i hi
        exact .inr ⟨rfl, ht.mark_at hi |>.imp fun c hc => ⟨hc.2, hc.1⟩⟩
      · exact .inl rfl
    · rw [getElem?_blanked, if_neg hc]
      exact .inl rfl

end OptionalInitialization

namespace Linter

open OptionalInitialization (Spaced enabledSpans)

/-- What becomes of the bytes of a file, and the corrections that are reported of it. -/
inductive Autocorrected (linter : Linter) (path : Path) (bytes : List UInt8) :
    List UInt8 → List Correction → Prop
  | unreadable {e : Utf8.DecodeError} (undecoded : Utf8.decode bytes = .error e) :
      Autocorrected linter path bytes bytes []
  | clean {text : Text} (decoded : Utf8.decode bytes = .ok text)
      (nothing : linter.lint ⟨text, some path⟩ = .ok []) :
      Autocorrected linter path bytes bytes []
  | corrected {text : Text} {violations : List Violation} {c : Corrected}
      (decoded : Utf8.decode bytes = .ok text) (encoded : Utf8.encode text = bytes)
      (found : linter.lint ⟨text, some path⟩ = .ok violations) (something : violations ≠ [])
      (correct : OptionalInitialization.correct (linter.context ⟨text, some path⟩) = .ok c)
      (spaced : Spaced text c.contents) :
      Autocorrected linter path bytes (Utf8.encode c.contents) c.corrections

theorem rules_ofConfiguration (configuration : Configuration) :
    (ofConfiguration configuration).rules = [] ∨ ∃ severity,
      (ofConfiguration configuration).rules =
        [{ OptionalInitialization.rule with severity := severity }] := by
  by_cases h : configuration.isEnabled OptionalInitialization.rule.id
      OptionalInitialization.rule.optIn
  · refine .inr ⟨(configuration.severities.lookup OptionalInitialization.rule.id).getD
      OptionalInitialization.rule.severity, ?_⟩
    simp only [ofConfiguration, Configuration.enabledRules, allRules, List.filter_cons, h, if_true,
      List.filter_nil, List.map_cons, List.map_nil]
  · refine .inl ?_
    simp only [ofConfiguration, Configuration.enabledRules, allRules, List.filter_cons, h,
      List.filter_nil]
    rfl

theorem mergeSort_eq_nil {α : Type} {le : α → α → Bool} {l : List α} :
    l.mergeSort le = [] ↔ l = [] := by
  rw [← List.length_eq_zero_iff, List.length_mergeSort, List.length_eq_zero_iff]

/-- The configured rule, where it is enabled, is never refused. -/
theorem pass_ofConfiguration (configuration : Configuration) (source : Source) :
    let linter := ofConfiguration configuration
    (linter.lint source = .ok [] ∧ linter.rewrites source = [] ∧ linter.corrections source = []) ∨
      ∃ violations, linter.lint source = .ok violations ∧ violations ≠ [] ∧
        ∃ c, OptionalInitialization.correct (linter.context source) = .ok c ∧
          Spaced source.contents c.contents ∧
          linter.rewrites source = changes source.contents [c] ∧
          linter.corrections source = c.corrections := by
  intro linter
  rcases rules_ofConfiguration configuration with hrules | ⟨severity, hrules⟩
  · refine .inl ⟨?_, ?_, ?_⟩
    · rw [lint, hrules, List.mapM_nil, pure_bind, List.flatten_nil, List.mergeSort_nil]
      rfl
    · simp only [rewrites, linter, hrules, pass, changes]
    · simp only [corrections, linter, hrules, pass, List.flatMap_nil]
  · obtain ⟨c, hc, hcorrect⟩ : ∃ c, c = _ ∧
        OptionalInitialization.correct (linter.context source) = .ok c :=
      ⟨_, rfl, OptionalInitialization.correct_eq_ok (linter.context source)⟩
    have hpass : linter.pass linter.rules source = [c] := by
      simp only [hrules, linter, pass, OptionalInitialization.rule]
      rw [hcorrect]
    obtain ⟨violations, hlint, hnone⟩ : ∃ violations, linter.lint source = .ok violations ∧
        (violations = [] ↔ enabledSpans (linter.context source) = []) := by
      refine ⟨_, by rw [lint, hrules, List.mapM_cons, List.mapM_nil]; rfl, ?_⟩
      rw [mergeSort_eq_nil, List.flatten_singleton, OptionalInitialization.validate, enabledSpans,
        List.map_eq_nil_iff, List.map_eq_nil_iff]
    by_cases hspans : enabledSpans (linter.context source) = []
    · rw [hspans, OptionalInitialization.blanked_nil] at hc
      have hsame : c.contents = source.contents := congrArg Corrected.contents hc
      refine .inl ⟨by rw [hlint, hnone.2 hspans], ?_, ?_⟩
      · rw [rewrites, hpass, changes, if_pos hsame]
        rfl
      · rw [corrections, hpass, hc]
        rfl
    · refine .inr ⟨violations, hlint, fun h => hspans (hnone.1 h), c, hcorrect, ?_, ?_, ?_⟩
      · rw [hc]
        exact OptionalInitialization.spaced_blanked fun _ =>
          OptionalInitialization.reads_of_mem_enabledSpans
      · rw [rewrites, hpass]
      · rw [corrections, hpass, List.flatMap_singleton]

/-- What autocorrection makes of a file whose texts are all written. -/
theorem autocorrected_of_written (configuration : Configuration) {t : Tree} {path : Path}
    {names : Names} {bytes : List UInt8} (hlocate : t.locate path = .ok (names, .file bytes)) :
    let linter := ofConfiguration configuration
    Autocorrected linter path bytes (written bytes (linter.rewritesAt t path))
      (linter.correctionsAt t path) := by
  intro linter
  cases hdecode : Utf8.decode bytes with
  | error e =>
    have hread : ∃ e, t.readSource path = .error e := by
      unfold Tree.readSource
      rw [Tree.readText_file hlocate, hdecode]
      exact ⟨_, rfl⟩
    obtain ⟨e', hread⟩ := hread
    simp only [rewritesAt, correctionsAt, hread]
    exact .unreadable hdecode
  | ok text =>
    have hread : t.readSource path = .ok ⟨text, some path⟩ :=
      Tree.readSource_eq_ok.2 ⟨Tree.readText_eq_ok.2 ⟨names, bytes, hlocate, hdecode⟩, rfl⟩
    simp only [rewritesAt, correctionsAt, hread]
    have hencode := Utf8.encode_of_decode hdecode
    rcases pass_ofConfiguration configuration ⟨text, some path⟩ with
      ⟨hlint, hrewrites, hcorrections⟩ |
        ⟨violations, hlint, hsomething, c, hcorrect, hspaced, hrewrites, hcorrections⟩
    · rw [hrewrites, hcorrections]
      exact .clean hdecode hlint
    · have hwritten : written bytes (changes text [c]) = Utf8.encode c.contents := by
        by_cases hsame : c.contents = text
        · rw [changes, if_pos hsame, hsame, hencode]
          rfl
        · rw [changes, if_neg hsame]
          rfl
      rw [hrewrites, hcorrections, hwritten]
      exact .corrected hdecode hencode hlint hsomething hcorrect hspaced

/-- Autocorrection keeps the names of the tree and everything but the files that it looks at, and
comes upon the same files however many it has gone through. Each of them becomes what the rule
makes of it, and the corrections of the report are theirs, file by file. -/
theorem correctPaths_frame (configuration : Configuration) (t : Tree) (paths : List String) :
    let linter := ofConfiguration configuration
    let run := linter.correctPaths (fun t => t) Tree.writer paths t
    let files := linter.files t paths
    run.failure = none ∧ run.store.entries.map Prod.fst = t.entries.map Prod.fst ∧
      (∀ count, linter.files
        (linter.correctEach (fun t => t) Tree.writer (files.take count) t).store paths = files) ∧
      (∀ names, (∀ path ∈ files, ∀ e, t.locate path ≠ .ok (names, e)) →
        run.store.find? names = t.find? names) ∧
      List.Forall₂ (fun path o => ∃ names bytes bytes',
        t.locate path = .ok (names, .file bytes) ∧
        run.store.find? names = some (.file bytes') ∧
        Autocorrected linter path bytes bytes' o.corrections) files run.outcomes ∧
      (Report.ofOutcomes run.outcomes).corrections =
        run.outcomes.flatMap Outcome.corrections := by
  intro linter run files
  obtain ⟨hfailure, hrewritten, helsewhere, -⟩ := correctPaths_served linter replaces_writer paths t
  have hserved := correctPaths_written linter t paths
  have hlocated : ∀ path ∈ files, ∃ names bytes, t.locate path = .ok (names, .file bytes) :=
    fun path hpath => Tree.isFile_iff.1 (Discovery.isFile_of_mem_files hpath)
  refine ⟨hfailure, hrewritten.names, files_after_some linter replaces_writer paths t, ?_, ?_, ?_⟩
  · intro names hnames
    refine helsewhere names fun path hpath hplace => ?_
    obtain ⟨names', bytes, hlocate⟩ := hlocated path hpath
    cases (Tree.locate_eq_ok hlocate).2.symm.trans hplace
    exact hnames path hpath _ hlocate
  · refine ((List.forall₂_and_left files _).2 ⟨hlocated, hserved⟩).imp ?_
    rintro path o ⟨⟨names, bytes, hlocate⟩, h⟩
    refine ⟨names, bytes, _, hlocate, (Tree.locate_eq_ok (h.holds names bytes hlocate)).1.found, ?_⟩
    rw [(h.settled rfl).1]
    exact autocorrected_of_written configuration hlocate
  · rw [Report.ofOutcomes_eq]

end Linter

end PatternLint
