import Mathlib.Data.List.Forall2
import PatternLint.Correction.Apply
import PatternLint.Proofs.Correction.Verdict
import PatternLint.Proofs.Text.Line

/-! The calls that a correction makes of its writer. It may go in four ways: the spans are not
rewritten, or there is nothing to write, or the writer is called once, and accepts the text or
fails. What is known of the calls and of the answer is read off these. That the spans are located
only after the write makes no difference, since spans that can be rewritten start in the file. -/

namespace PatternLint

namespace Rewrite

variable {dialect : Dialect} {rw : Rewrite} {s t u : Text} {spans : List Span}

/-- The text `t` is `s` with every span rewritten: within each of them, taken by itself, the first
occurrence of the pattern is replaced, and that changes no length. -/
structure Rewrites (dialect : Dialect) (rw : Rewrite) (s : Text) (spans : List Span)
    (t : Text) : Prop where
  separate : spans.Pairwise fun a b => a.intersects b = false
  within : ∀ a ∈ spans, a.stop ≤ s.length
  exchanges : ∃ compiled, dialect.compile rw.flags rw.pattern = .ok compiled ∧
    ∀ a ∈ spans, ∃ expand, compiled.template rw.replacement = .ok expand ∧
      Exchanges compiled.matcher expand (s.slice a.start a.stop) (t.slice a.start a.stop)
  outside : ∀ i, ¬Covered spans i → t[i]? = s[i]?

theorem rewrites_of_apply (h : rw.apply dialect s spans = .ok t) :
    rw.Rewrites dialect s spans t := by
  obtain ⟨compiled, hcompile, hseparate, hspans, hreplaces⟩ := apply_eq_ok_iff.1 h
  refine ⟨hseparate, fun a ha => (hspans a ha).1,
    ⟨compiled, compile_eq_ok_iff.1 hcompile, fun a ha => ?_⟩, hreplaces.outside⟩
  obtain ⟨expand, hexpand, hr⟩ := piece_eq_ok_iff.1 (hspans a ha).piece_eq
  rw [hreplaces.slice_eq ha (hspans a ha)]
  exact ⟨expand, expansion_eq_ok_iff.1 hexpand, hr⟩

theorem Rewrites.apply_eq (h : rw.Rewrites dialect s spans t) :
    rw.apply dialect s spans = .ok t := by
  obtain ⟨hseparate, hwithin, ⟨compiled, hcompile, hexchanges⟩, houtside⟩ := h
  have hpiece : ∀ a ∈ spans,
      rw.piece compiled a.start (s.slice a.start a.stop) = .ok (t.slice a.start a.stop) := by
    intro a ha
    obtain ⟨expand, hexpand, hr⟩ := hexchanges a ha
    exact piece_eq_ok_iff.2 ⟨expand, expansion_eq_ok_iff.2 hexpand, hr⟩
  refine apply_eq_ok_iff.2 ⟨compiled, compile_eq_ok_iff.2 hcompile, hseparate,
    fun a ha => ⟨hwithin a ha, _, hpiece a ha⟩, fun a ha i h1 h2 => ?_, houtside⟩
  rw [rewritten, hpiece a ha, Text.getElem?_slice, if_pos (by omega), Nat.add_sub_cancel' h1]

theorem Rewrites.unique (h : rw.Rewrites dialect s spans t) (h' : rw.Rewrites dialect s spans u) :
    t = u :=
  Except.ok.inj (h.apply_eq.symm.trans h'.apply_eq)

end Rewrite

namespace Correction

variable {σ : Type} {dialect : Dialect} {writer : Writer σ} {source : Source} {spans : List Span}
  {rw : Rewrite} {ruleId ruleName : String} {store store' : σ} {corrected : Corrected}
  {path : Path} {t : Text}

/-- What a writer has been called with, in turn. -/
abbrev Calls := List (Path × Text)

/-- The writer, with its calls on record in the store. -/
def recording (writer : Writer σ) : Writer (σ × Calls) := fun path text (store, calls) =>
  let (result, store) := writer path text store
  (result, store, calls ++ [(path, text)])

/-- Why a correction fails that locates its spans last. -/
inductive LateFailure where
  | failure (e : Failure)
  | outside (e : OutsideBuffer)

/-- Where spans start in a file; none of them may start outside. -/
def locateAll? (source : Source) (spans : List Span) : Except OutsideBuffer (List Location) :=
  spans.mapM fun a => source.location? a.start

/-- The steps of a correction one by one: the spans are rewritten, the file is written, and only
then the spans are located. -/
def applyInSteps (dialect : Dialect) (writer : Writer σ) (source : Source) (spans : List Span)
    (rw : Rewrite) (ruleId ruleName : String) (store : σ) : Except LateFailure Corrected × σ :=
  if spans = [] then (.ok { contents := source.contents }, store)
  else
    match rw.apply dialect source.contents spans with
    | .error e => (.error (.failure (.rewrite e)), store)
    | .ok contents =>
      match commit writer source { contents } store with
      | (.error e, store) => (.error (.failure (.write e)), store)
      | (.ok (), store) =>
        match locateAll? source spans with
        | .error e => (.error (.outside e), store)
        | .ok locations => (.ok ⟨contents, locations.map fun l => ⟨ruleId, ruleName, l⟩⟩, store)

theorem start_le_length (h : rw.Rewrites dialect source.contents spans t) :
    ∀ a ∈ spans, a.start ≤ source.length :=
  fun a ha => Nat.le_trans a.start_le_stop (h.within a ha)

theorem locateAll?_eq_ok (h : rw.Rewrites dialect source.contents spans t) :
    locateAll? source spans = .ok (spans.map fun a => source.locate a.start) :=
  mapM_eq_ok fun a ha => Source.location?_of_le (start_le_length h a ha)

/-! What is planned. -/

theorem plan_eq_error {e : Rewrite.Failure}
    (h : plan dialect source spans rw ruleId ruleName = .error e) :
    spans ≠ [] ∧ rw.apply dialect source.contents spans = .error e := by
  unfold plan at h
  split at h
  · cases h
  · rename_i hne
    refine ⟨hne, ?_⟩
    cases happly : rw.apply dialect source.contents spans with
    | error e' =>
      rw [happly] at h
      exact congrArg Except.error (Except.error.inj h)
    | ok contents =>
      rw [happly] at h
      cases h

theorem plan_cases (h : plan dialect source spans rw ruleId ruleName = .ok corrected) :
    spans = [] ∧ corrected = { contents := source.contents } ∨
      spans ≠ [] ∧ rw.Rewrites dialect source.contents spans corrected.contents ∧
        corrected.corrections = spans.map fun a => ⟨ruleId, ruleName, source.locate a.start⟩ := by
  unfold plan at h
  split at h
  · rename_i hempty
    exact .inl ⟨hempty, (Except.ok.inj h).symm⟩
  · rename_i hne
    cases happly : rw.apply dialect source.contents spans with
    | error e =>
      rw [happly] at h
      cases h
    | ok contents =>
      rw [happly] at h
      obtain rfl := Except.ok.inj h
      exact .inr ⟨hne, Rewrite.rewrites_of_apply happly, rfl⟩

theorem plan_eq_ok (h : plan dialect source spans rw ruleId ruleName = .ok corrected) :
    (if spans = [] then corrected.contents = source.contents
      else rw.Rewrites dialect source.contents spans corrected.contents) ∧
    List.Forall₂ (fun a c => c.ruleId = ruleId ∧ c.ruleName = ruleName ∧
      source.location? a.start = .ok c.location) spans corrected.corrections := by
  rcases plan_cases h with ⟨hempty, rfl⟩ | ⟨hne, hrewrites, hcorrections⟩
  · rw [if_pos hempty, hempty]
    exact ⟨rfl, .nil⟩
  · refine ⟨by rwa [if_neg hne], ?_⟩
    rw [hcorrections, List.forall₂_map_right_iff, List.forall₂_same]
    exact fun a ha => ⟨rfl, rfl, Source.location?_of_le (start_le_length hrewrites a ha)⟩

/-- There is a text to write if spans have been rewritten in a file with a path, to another text. -/
theorem target?_eq_some_iff (h : plan dialect source spans rw ruleId ruleName = .ok corrected) :
    target? source corrected = some path ∧ t = corrected.contents ↔
      spans ≠ [] ∧ rw.Rewrites dialect source.contents spans t ∧ source.path = some path ∧
        t ≠ source.contents := by
  unfold target?
  rcases plan_cases h with ⟨hempty, rfl⟩ | ⟨hne, hcontents, -⟩
  · simp [hempty]
  · constructor
    · rintro ⟨htarget, rfl⟩
      split at htarget
      · cases htarget
      · rename_i hdiffers
        exact ⟨hne, hcontents, htarget, hdiffers⟩
    · rintro ⟨-, hrewrites, hpath, hdiffers⟩
      obtain rfl := hrewrites.unique hcontents
      exact ⟨by rwa [if_neg hdiffers], rfl⟩

section
variable (h : plan dialect source spans rw ruleId ruleName = .ok corrected)
include h

theorem apply_of_target_none (haim : target? source corrected = none) :
    apply dialect writer source spans rw ruleId ruleName store = (.ok corrected, store) := by
  simp only [apply, h, commit, haim]

theorem apply_of_accepted (haim : target? source corrected = some path)
    (hcall : writer path corrected.contents store = (.ok (), store')) :
    apply dialect writer source spans rw ruleId ruleName store = (.ok corrected, store') := by
  simp only [apply, h, commit, haim, hcall]

theorem apply_of_failed {e : WriteError} (haim : target? source corrected = some path)
    (hcall : writer path corrected.contents store = (.error e, store')) :
    apply dialect writer source spans rw ruleId ruleName store = (.error (.write e), store') := by
  simp only [apply, h, commit, haim, hcall]

end

theorem apply_of_refused {e : Rewrite.Failure}
    (h : plan dialect source spans rw ruleId ruleName = .error e) :
    apply dialect writer source spans rw ruleId ruleName store = (.error (.rewrite e), store) := by
  simp only [apply, h]

/-! The spans located last. -/

theorem applyInSteps_of_refused {e : Rewrite.Failure}
    (h : plan dialect source spans rw ruleId ruleName = .error e) :
    applyInSteps dialect writer source spans rw ruleId ruleName store =
      (.error (.failure (.rewrite e)), store) := by
  obtain ⟨hne, happly⟩ := plan_eq_error h
  rw [applyInSteps, if_neg hne, happly]

/-- Nothing fails after the write. -/
theorem applyInSteps_of_planned (h : plan dialect source spans rw ruleId ruleName = .ok corrected) :
    applyInSteps dialect writer source spans rw ruleId ruleName store =
      match commit writer source corrected store with
      | (.error e, store) => (.error (.failure (.write e)), store)
      | (.ok (), store) => (.ok corrected, store) := by
  rcases plan_cases h with ⟨hempty, rfl⟩ | ⟨hne, hrewrites, hcorrections⟩
  · rw [applyInSteps, if_pos hempty]
    simp only [commit, target?, if_true]
  · obtain ⟨contents, corrections⟩ := corrected
    obtain rfl : corrections = _ := hcorrections
    simp only [applyInSteps, if_neg hne, hrewrites.apply_eq, locateAll?_eq_ok hrewrites,
      List.map_map]
    rfl

theorem applyInSteps_eq (dialect : Dialect) (writer : Writer σ) (source : Source)
    (spans : List Span) (rw : Rewrite) (ruleId ruleName : String) (store : σ) :
    let ended := apply dialect writer source spans rw ruleId ruleName store
    applyInSteps dialect writer source spans rw ruleId ruleName store =
      (ended.1.mapError .failure, ended.2) := by
  cases hplan : plan dialect source spans rw ruleId ruleName with
  | error e =>
    rw [applyInSteps_of_refused hplan, apply_of_refused hplan]
    rfl
  | ok corrected =>
    simp only [applyInSteps_of_planned hplan, apply, hplan]
    rcases commit writer source corrected store with ⟨_ | _, store'⟩
    · rfl
    · rfl

/-! The four ways a correction goes. -/

/-- The answer of a correction, the store it leaves, and the calls of the writer. -/
inductive Course (dialect : Dialect) (writer : Writer σ) (source : Source) (spans : List Span)
    (rw : Rewrite) (ruleId ruleName : String) (store : σ) :
    Except Failure Corrected × σ × Calls → Prop
  | refused {e : Rewrite.Failure}
      (refusal : plan dialect source spans rw ruleId ruleName = .error e) :
      Course dialect writer source spans rw ruleId ruleName store (.error (.rewrite e), store, [])
  | kept {corrected : Corrected}
      (planned : plan dialect source spans rw ruleId ruleName = .ok corrected)
      (aim : target? source corrected = none) :
      Course dialect writer source spans rw ruleId ruleName store (.ok corrected, store, [])
  | written {corrected : Corrected} {path : Path} {store' : σ}
      (planned : plan dialect source spans rw ruleId ruleName = .ok corrected)
      (aim : target? source corrected = some path)
      (call : writer path corrected.contents store = (.ok (), store')) :
      Course dialect writer source spans rw ruleId ruleName store
        (.ok corrected, store', [(path, corrected.contents)])
  | failed {corrected : Corrected} {path : Path} {e : WriteError} {store' : σ}
      (planned : plan dialect source spans rw ruleId ruleName = .ok corrected)
      (aim : target? source corrected = some path)
      (call : writer path corrected.contents store = (.error e, store')) :
      Course dialect writer source spans rw ruleId ruleName store
        (.error (.write e), store', [(path, corrected.contents)])

theorem recording_eq {result : Except WriteError Unit} (h : writer path t store = (result, store'))
    (calls : Calls) :
    recording writer path t (store, calls) = (result, store', calls ++ [(path, t)]) := by
  simp only [recording, h]

theorem course (dialect : Dialect) (writer : Writer σ) (source : Source) (spans : List Span)
    (rw : Rewrite) (ruleId ruleName : String) (store : σ) :
    let ended := apply dialect (recording writer) source spans rw ruleId ruleName (store, [])
    Course dialect writer source spans rw ruleId ruleName store ended ∧
      (ended.1, ended.2.1) = apply dialect writer source spans rw ruleId ruleName store := by
  intro ended
  cases hplan : plan dialect source spans rw ruleId ruleName with
  | error e =>
    simp only [ended, apply_of_refused hplan]
    exact ⟨.refused hplan, trivial⟩
  | ok corrected =>
    cases haim : target? source corrected with
    | none =>
      simp only [ended, apply_of_target_none hplan haim]
      exact ⟨.kept hplan haim, trivial⟩
    | some path =>
      rcases hcall : writer path corrected.contents store with ⟨e | ⟨⟩, store'⟩
      · simp only [ended, apply_of_failed hplan haim (recording_eq hcall []),
          apply_of_failed hplan haim hcall]
        exact ⟨.failed hplan haim hcall, trivial⟩
      · simp only [ended, apply_of_accepted hplan haim (recording_eq hcall []),
          apply_of_accepted hplan haim hcall]
        exact ⟨.written hplan haim hcall, trivial⟩

namespace Course

variable {ended : Except Failure Corrected × σ × Calls}

theorem length_calls_le (h : Course dialect writer source spans rw ruleId ruleName store ended) :
    ended.2.2.length ≤ 1 := by
  cases h with
  | refused | kept => exact Nat.zero_le 1
  | written | failed => exact Nat.le_refl 1

theorem mem_calls_iff (h : Course dialect writer source spans rw ruleId ruleName store ended) :
    (path, t) ∈ ended.2.2 ↔ spans ≠ [] ∧ rw.Rewrites dialect source.contents spans t ∧
      source.path = some path ∧ t ≠ source.contents := by
  cases h with
  | refused refusal =>
    obtain ⟨-, herror⟩ := plan_eq_error refusal
    refine iff_of_false List.not_mem_nil fun ⟨_, hrewrites, _⟩ => ?_
    rw [hrewrites.apply_eq] at herror
    cases herror
  | kept planned aim =>
    rw [← target?_eq_some_iff planned, aim]
    simp
  | written planned aim | failed planned aim =>
    rw [← target?_eq_some_iff planned, aim, List.mem_singleton, Prod.mk.injEq,
      Option.some.injEq, eq_comm]

theorem eq_of_rewrite (h : Course dialect writer source spans rw ruleId ruleName store ended)
    {e : Rewrite.Failure} (he : ended.1 = .error (.rewrite e)) :
    rw.apply dialect source.contents spans = .error e ∧ ended.2 = (store, []) := by
  cases h with
  | refused refusal =>
    obtain rfl := Failure.rewrite.inj (Except.error.inj he)
    exact ⟨(plan_eq_error refusal).2, rfl⟩
  | kept | written | failed => cases he

theorem eq_write_iff (h : Course dialect writer source spans rw ruleId ruleName store ended)
    {e : WriteError} : ended.1 = .error (.write e) ↔
      ∃ path t, (path, t) ∈ ended.2.2 ∧ writer path t store = (.error e, ended.2.1) := by
  cases h with
  | refused | kept => simp
  | written planned aim call => simp [call]
  | failed planned aim call => simp [call]

theorem planned_of_ok (h : Course dialect writer source spans rw ruleId ruleName store ended)
    (hok : ended.1 = .ok corrected) :
    plan dialect source spans rw ruleId ruleName = .ok corrected := by
  cases h with
  | refused | failed => cases hok
  | kept planned | written planned =>
    obtain rfl := Except.ok.inj hok
    exact planned

end Course

/-- Whatever library reads the rewrite, a correction calls the writer no more than once, and calls
it exactly if there are spans, they can be rewritten, the file has a path and the text changes: with
that path and the text in which every span is rewritten. An error other than the writer's own, a
refusal or an unforeseen one, leaves the writer uncalled and the store as it was. An answer has the
text, and a correction for each span in the order given, at the place where the span starts in the
original file. Keeping the record of the calls changes nothing, and nothing fails for the spans
being located after the write. -/
theorem apply_writes_once (dialect : Dialect) (writer : Writer σ) (source : Source)
    (spans : List Span) (rw : Rewrite) (ruleId ruleName : String) (store : σ) :
    let ended := apply dialect (recording writer) source spans rw ruleId ruleName (store, [])
    let calls := ended.2.2
    (ended.1, ended.2.1) = apply dialect writer source spans rw ruleId ruleName store ∧
    applyInSteps dialect (recording writer) source spans rw ruleId ruleName (store, []) =
      (ended.1.mapError .failure, ended.2) ∧
    calls.length ≤ 1 ∧
    (∀ path t, (path, t) ∈ calls ↔ spans ≠ [] ∧ rw.Rewrites dialect source.contents spans t ∧
      source.path = some path ∧ t ≠ source.contents) ∧
    (∀ e, ended.1 = .error (.rewrite e) →
      rw.apply dialect source.contents spans = .error e ∧ calls = [] ∧ ended.2.1 = store) ∧
    (∀ e, ended.1 = .error (.write e) ↔
      ∃ path t, (path, t) ∈ calls ∧ writer path t store = (.error e, ended.2.1)) ∧
    ∀ corrected, ended.1 = .ok corrected →
      (if spans = [] then corrected.contents = source.contents
        else rw.Rewrites dialect source.contents spans corrected.contents) ∧
      List.Forall₂ (fun a c => c.ruleId = ruleId ∧ c.ruleName = ruleName ∧
        source.location? a.start = .ok c.location) spans corrected.corrections := by
  intro ended calls
  obtain ⟨hcourse, hplain⟩ := course dialect writer source spans rw ruleId ruleName store
  refine ⟨hplain, applyInSteps_eq .., hcourse.length_calls_le, fun path t => hcourse.mem_calls_iff,
    fun e he => ?_, fun e => hcourse.eq_write_iff,
    fun corrected hok => plan_eq_ok (hcourse.planned_of_ok hok)⟩
  obtain ⟨herror, hstore⟩ := hcourse.eq_of_rewrite he
  obtain ⟨hstore, hcalls⟩ := Prod.mk.inj hstore
  exact ⟨herror, hcalls, hstore⟩

end Correction

end PatternLint
