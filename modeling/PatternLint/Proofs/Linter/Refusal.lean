import PatternLint.Proofs.Linter.Run
import PatternLint.Proofs.Text.Utf8

/-! Writes that are refused. Each rule writes its own text, and what has been written is not taken
back when a later text is refused: a file keeps its text through every failure exactly when the
rules have no more than one text for it. -/

namespace PatternLint.Linter

variable {σ : Type} {linter : Linter} {tree : σ → Tree} {writer : Writer σ} {store : σ}
  {path : Path} {bytes : List UInt8} {t : Tree} {contents text : Text} {rest : List Text}

/-- Whatever the writer, the file keeps its text when it cannot be written. -/
def SurvivesFailure (linter : Linter) (t : Tree) (path : Path) (contents : Text) : Prop :=
  ∀ (σ : Type) (tree : σ → Tree) (writer : Writer σ), Replaces tree writer →
    ∀ store, tree store = t →
      let attempt := linter.correctFile writer ⟨contents, some path⟩ store
      ∀ e, attempt.result = .error e → (tree attempt.store).readText path = .ok contents

theorem head_ne_of_changes {passed : List Corrected} (h : changes contents passed = text :: rest) :
    text ≠ contents := by
  induction passed with
  | nil => cases h
  | cons c passed ih =>
    rw [changes] at h
    split at h
    · exact ih h
    · rename_i hne
      obtain ⟨rfl, -⟩ := List.cons.inj h
      exact hne

theorem decode_written (h : Utf8.decode bytes = .ok contents) (texts : List Text) :
    Utf8.decode (written bytes texts) = .ok (texts.getLastD contents) := by
  unfold written
  rw [List.getLastD_eq_getLast?]
  cases texts.getLast? with
  | none => exact h
  | some text => exact Utf8.decode_encode_text text

/-- A failed attempt leaves the last of the texts before the one that was refused. -/
theorem correctFile_stops (linter : Linter) (h : Replaces tree writer)
    (hread : (tree store).readText path = .ok contents) :
    let source : Source := ⟨contents, some path⟩
    let attempt := linter.correctFile writer source store
    ∀ e, attempt.result = .error e → ∃ done text more reason,
      linter.rewrites source = done ++ text :: more ∧ e = .refused path reason ∧
        (tree attempt.store).readText path = .ok (done.getLastD contents) := by
  intro source attempt e he
  obtain ⟨names, bytes, hlocate, hdecode⟩ := Tree.readText_eq_ok.1 hread
  obtain ⟨hresult, hstore⟩ := correctFile_eq_feed linter writer source rfl store
  obtain ⟨done, rest, hrewrites, hreplaced, hok, herror⟩ :=
    feed_replaces h hlocate (linter.rewrites source)
  rw [he] at hresult
  cases rest with
  | nil =>
    rw [hok rfl] at hresult
    cases hresult
  | cons text more =>
    obtain ⟨reason, hrefused, -⟩ := herror text more rfl
    rw [hrefused] at hresult
    cases hresult
    refine ⟨done, text, more, reason, hrewrites, rfl, ?_⟩
    rw [hstore]
    exact Tree.readText_eq_ok.2
      ⟨names, written bytes done, hreplaced.locate hlocate, decode_written hdecode done⟩

/-- A writer that refuses one file once it holds another text than at first. -/
def onceOnly (path : Path) (contents : Text) : Writer Tree := fun p text t =>
  if p = path ∧ t.readText path ≠ .ok contents then
    (.error (.refused p "Read-only file system"), t)
  else Tree.writeText p text t

theorem replaces_onceOnly (path : Path) (contents : Text) :
    Replaces (fun t => t) (onceOnly path contents) where
  accepted {t t' p names bytes text} hlocate hwrite := by
    unfold onceOnly at hwrite
    split at hwrite
    · cases hwrite
    · exact replaces_writer.accepted hlocate hwrite
  refused {t t' p names bytes text e} hlocate hwrite := by
    unfold onceOnly at hwrite
    split at hwrite
    · obtain ⟨he, rfl⟩ := Prod.mk.inj hwrite
      exact ⟨rfl, _, (Except.error.inj he).symm⟩
    · exact replaces_writer.refused hlocate hwrite

/-- Of two texts the second is refused when the first has been written. -/
theorem correctFile_onceOnly (hread : t.readText path = .ok contents) {first second : Text}
    {more : List Text}
    (hrewrites : linter.rewrites ⟨contents, some path⟩ = first :: second :: more) :
    let attempt := linter.correctFile (onceOnly path contents) ⟨contents, some path⟩ t
    attempt.result = .error (.refused path "Read-only file system") ∧
      attempt.store.readText path = .ok first ∧ first ≠ contents := by
  intro attempt
  obtain ⟨names, bytes, hlocate, -⟩ := Tree.readText_eq_ok.1 hread
  have hne : first ≠ contents := head_ne_of_changes hrewrites
  have hfirst : onceOnly path contents path first t =
      (.ok (), t.put names (.file (Utf8.encode first))) := by
    rw [onceOnly, if_neg fun h => h.2 hread]
    exact Tree.writeText_eq_ok hlocate first
  have hafter : (t.put names (.file (Utf8.encode first))).readText path = .ok first := by
    have hreplaced := (replaces_onceOnly path contents).accepted hlocate hfirst
    exact Tree.readText_eq_ok.2
      ⟨names, _, hreplaced.locate hlocate, Utf8.decode_encode_text first⟩
  have hsecond : onceOnly path contents path second (t.put names (.file (Utf8.encode first))) =
      (.error (.refused path "Read-only file system"),
        t.put names (.file (Utf8.encode first))) := by
    rw [onceOnly, if_pos]
    refine ⟨rfl, ?_⟩
    rw [hafter]
    exact fun h => hne (Except.ok.inj h)
  obtain ⟨hresult, hstore⟩ := correctFile_eq_feed linter (onceOnly path contents)
    ⟨contents, some path⟩ rfl t
  rw [hrewrites, feed, hfirst] at hresult hstore
  dsimp only at hresult hstore
  rw [feed, hsecond] at hresult hstore
  refine ⟨hresult, ?_, hne⟩
  rw [hstore]
  exact hafter

theorem survivesFailure_iff (linter : Linter) (hread : t.readText path = .ok contents) :
    linter.SurvivesFailure t path contents ↔
      (linter.rewrites ⟨contents, some path⟩).length ≤ 1 := by
  constructor
  · intro h
    by_contra hmany
    match hrewrites : linter.rewrites ⟨contents, some path⟩ with
    | [] => simp [hrewrites] at hmany
    | [first] => simp [hrewrites] at hmany
    | first :: second :: more =>
      obtain ⟨hresult, hafter, hne⟩ := correctFile_onceOnly hread hrewrites
      have hkept := h Tree (fun t => t) _ (replaces_onceOnly path contents) t rfl _ hresult
      rw [hafter] at hkept
      exact hne (Except.ok.inj hkept)
  · rintro hfew σ tree writer h store rfl attempt e he
    obtain ⟨done, text, more, reason, hrewrites, -, hafter⟩ :=
      correctFile_stops linter h hread e he
    have hdone : done = [] := by
      rw [hrewrites, List.length_append, List.length_cons] at hfew
      exact List.length_eq_zero_iff.1 (by omega)
    rw [hdone] at hafter
    exact hafter

/-- In a run, a file with no more than one text to be written stays as it is or has all its
corrections reported. -/
theorem correctPaths_of_few (linter : Linter) (h : Replaces tree writer) (paths : List String)
    (store : σ) :
    let run := linter.correctPaths tree writer paths store
    List.Forall₂ (fun path o => (linter.rewritesAt (tree store) path).length ≤ 1 →
        (tree run.store).locate path = (tree store).locate path ∨
          o.corrections = linter.correctionsAt (tree store) path)
      (linter.files (tree store) paths) run.outcomes := by
  obtain ⟨-, -, -, hall⟩ := correctPaths_served linter h paths store
  have hfiles : ∀ path ∈ linter.files (tree store) paths, (tree store).isFile path = true :=
    fun _ => Discovery.isFile_of_mem_files
  refine ((List.forall₂_and_left _ _).2 ⟨hfiles, hall⟩).imp ?_
  rintro path o ⟨hfile, done, rest, hserved⟩ hfew
  cases rest with
  | nil => exact .inr (hserved.settled rfl).1
  | cons text more =>
    have hdone : done = [] := by
      rw [hserved.rewrites, List.length_append, List.length_cons] at hfew
      exact List.length_eq_zero_iff.1 (by omega)
    obtain ⟨names, bytes, hlocate⟩ := Tree.isFile_iff.1 hfile
    left
    rw [hserved.holds names bytes hlocate, hlocate, hdone, written_nil]

/-- A file keeps its text through every failure exactly when the rules have no more than one text
for it. Beyond that it is left with the last text that was written; and in a run whose files have
no more than one text each, none is left with a change that is not reported. -/
theorem refused_write_keeps_file_iff (linter : Linter) (t : Tree) :
    (∀ path contents, t.readText path = .ok contents →
      (linter.SurvivesFailure t path contents ↔
        (linter.rewrites ⟨contents, some path⟩).length ≤ 1)) ∧
    ∀ (σ : Type) (tree : σ → Tree) (writer : Writer σ), Replaces tree writer →
      ∀ store, tree store = t →
        (∀ path contents, t.readText path = .ok contents →
          let source : Source := ⟨contents, some path⟩
          let attempt := linter.correctFile writer source store
          ∀ e, attempt.result = .error e → ∃ done text more reason,
            linter.rewrites source = done ++ text :: more ∧ e = .refused path reason ∧
              (tree attempt.store).readText path = .ok (done.getLastD contents)) ∧
        ∀ paths,
          let run := linter.correctPaths tree writer paths store
          run.failure = none ∧
            List.Forall₂ (fun path o => (linter.rewritesAt t path).length ≤ 1 →
                (tree run.store).locate path = t.locate path ∨
                  o.corrections = linter.correctionsAt t path)
              (linter.files t paths) run.outcomes := by
  refine ⟨fun path contents => survivesFailure_iff linter, ?_⟩
  rintro σ tree writer h store rfl
  exact ⟨fun path contents => correctFile_stops linter h,
    fun paths => ⟨(correctPaths_served linter h paths store).1,
      correctPaths_of_few linter h paths store⟩⟩

/-- Two rules one after another: the text of the first is written, that of the second is refused,
and no correction is reported of the file that has changed. -/
theorem second_refusal_keeps_first_text :
    let text := "var a: Int? = nil
func f(
    b: Int? = nil
) {}".toList
    let path : Path := ⟨"", ["A.swift"]⟩
    let t : Tree := { entries := [(["A.swift"], .file (Utf8.encode text))] }
    let linter : Linter := { rules := [OptionalInitialization.rule, OptionalInitialization.rule] }
    let writer := onceOnly path text
    let attempt := linter.correctFile writer ⟨text, some path⟩ t
    let run := linter.correctPath (fun t => t) writer path t
    t.readText path = .ok text ∧ Replaces (fun t => t) writer ∧
      attempt.result = .error (.refused path "Read-only file system") ∧
      attempt.store.readText path =
        .ok "var a: Int?      
func f(
    b: Int? = nil
) {}".toList ∧
      run.store = attempt.store ∧ run.outcomes.flatMap Outcome.corrections = [] := by
  intro text path t linter writer attempt run
  have hread : t.readText path = .ok text :=
    Tree.readText_eq_ok.2 ⟨["A.swift"], _, rfl, Utf8.decode_encode_text text⟩
  have hrewrites : linter.rewrites ⟨text, some path⟩ =
      ["var a: Int?      \nfunc f(\n    b: Int? = nil\n) \x7b\x7d".toList,
        "var a: Int?      \nfunc f(\n    b: Int?      \n) \x7b\x7d".toList] := by
    decide +kernel
  obtain ⟨hresult, hafter, -⟩ := correctFile_onceOnly hread hrewrites
  have hsource : t.readSource path = .ok ⟨text, some path⟩ := Tree.readSource_eq_ok.2 ⟨hread, rfl⟩
  have hrun : run = ⟨[_], none, attempt.store⟩ := correctPath_of_refused hsource hresult
  refine ⟨hread, replaces_onceOnly path text, hresult, hafter, ?_, ?_⟩
  · rw [hrun]
  · rw [hrun]
    rfl

end PatternLint.Linter
