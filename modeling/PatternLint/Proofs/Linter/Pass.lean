import PatternLint.Linter.Correct
import PatternLint.Proofs.Files.Tree

/-! One file under the correctable rules. What the rules make of its text does not depend on the
writer: they lead to a list of texts, each to be written in place of the one before, and the
writer decides how far down that list the file gets. -/

namespace PatternLint

namespace Linter

variable {σ : Type} {linter : Linter} {writer : Writer σ} {path : Path}

/-- What the rules that are not refused make of a file, each of what those before it left. -/
def pass (linter : Linter) : List Rule → Source → List Corrected
  | [], _ => []
  | rule :: rest, source =>
    match rule.correct? with
    | none => pass linter rest source
    | some correct =>
      match correct (linter.context source) with
      | .error _ => pass linter rest source
      | .ok corrected =>
        corrected :: pass linter rest { source with contents := corrected.contents }

/-- The texts among these that differ from the one before. -/
def changes (contents : Text) : List Corrected → List Text
  | [] => []
  | c :: rest =>
    if c.contents = contents then changes contents rest
    else c.contents :: changes c.contents rest

/-- Writes texts one after another, up to the first that is refused. -/
def feed (writer : Writer σ) (path : Path) : List Text → σ → Except WriteError Unit × σ
  | [], store => (.ok (), store)
  | text :: rest, store =>
    match writer path text store with
    | (.error e, store) => (.error e, store)
    | (.ok (), store) => feed writer path rest store

/-- The texts that a linter writes in place of the contents of a file. -/
def rewrites (linter : Linter) (source : Source) : List Text :=
  changes source.contents (linter.pass linter.rules source)

/-- The corrections of a file by all rules together. -/
def corrections (linter : Linter) (source : Source) : List Correction :=
  (linter.pass linter.rules source).flatMap Corrected.corrections

theorem changes_cons (contents : Text) (c : Corrected) (rest : List Corrected) :
    changes contents (c :: rest) = changes contents [c] ++ changes c.contents rest := by
  by_cases h : c.contents = contents
  · simp [changes, h]
  · simp [changes, h]

theorem feed_append (writer : Writer σ) (path : Path) (before after : List Text) (store : σ) :
    feed writer path (before ++ after) store =
      match feed writer path before store with
      | (.error e, store) => (.error e, store)
      | (.ok (), store) => feed writer path after store := by
  fun_induction feed writer path before store with
  | case1 store => rfl
  | case2 text rest store e store' h => simp [feed, h]
  | case3 text rest store store' h ih => simp [feed, h, ih]

theorem commit_eq_feed (writer : Writer σ) (path : Path) (contents : Text) (corrected : Corrected)
    (store : σ) : Correction.commit writer ⟨contents, some path⟩ corrected store =
      feed writer path (changes contents [corrected]) store := by
  by_cases h : corrected.contents = contents
  · simp [Correction.commit, Correction.target?, changes, feed, h]
  · simp only [Correction.commit, Correction.target?, changes, feed, h, if_false]
    match writer path corrected.contents store with
    | (.error e, store') => rfl
    | (.ok (), store') => rfl

/-- Running the rules is writing the texts of the pass. -/
theorem correctWith_eq_feed (linter : Linter) (writer : Writer σ) (path : Path) (rules : List Rule)
    (contents : Text) (store : σ) :
    let attempt := linter.correctWith writer rules ⟨contents, some path⟩ store
    let passed := linter.pass rules ⟨contents, some path⟩
    let fed := feed writer path (changes contents passed) store
    attempt.result = fed.1.map (fun _ => passed.flatMap Corrected.corrections) ∧
      attempt.store = fed.2 := by
  induction rules generalizing contents store with
  | nil => exact ⟨rfl, rfl⟩
  | cons rule rest ih =>
    match hcorrect : rule.correct? with
    | none =>
      simp only [correctWith, pass, hcorrect]
      exact ih contents store
    | some correct =>
      match houtcome : correct (linter.context ⟨contents, some path⟩) with
      | .error e =>
        simp only [correctWith, pass, hcorrect, houtcome]
        exact ih contents store
      | .ok corrected =>
        simp only [correctWith, pass, hcorrect, houtcome]
        rw [changes_cons, feed_append, commit_eq_feed]
        match feed writer path (changes contents [corrected]) store with
        | (.error e, store') => exact ⟨rfl, rfl⟩
        | (.ok (), store') =>
          obtain ⟨hresult, hstore⟩ := ih corrected.contents store'
          refine ⟨?_, hstore⟩
          simp only [hresult, List.flatMap_cons]
          cases (feed writer path _ store').1 with
          | error e => rfl
          | ok u => rfl

theorem correctFile_eq_feed (linter : Linter) (writer : Writer σ) (source : Source)
    (hpath : source.path = some path) (store : σ) :
    let attempt := linter.correctFile writer source store
    let fed := feed writer path (linter.rewrites source) store
    attempt.result = fed.1.map (fun _ => linter.corrections source) ∧ attempt.store = fed.2 := by
  obtain ⟨contents, _⟩ := source
  obtain rfl : _ = some path := hpath
  exact correctWith_eq_feed linter writer path linter.rules contents store

end Linter

end PatternLint
