import PatternLint.Linter.Basic

/-! Runs that correct. Each rule sees the file as the rules before it left it, and what remains is
looked for in the file as it then stands. -/

namespace PatternLint.Linter

/-- The correctable rules, in order. -/
def correctableRules (linter : Linter) : List Rule := linter.rules.filter Rule.isCorrectable

/-- What the rules make of one file: their corrections, or why it cannot be written. -/
structure Attempt (σ : Type) where
  result : Except WriteError (List Correction)
  notes : List Note
  store : σ

/-- What is noted when a correction is written. -/
def commitNotes (source : Source) (rule : Rule) (corrected : Corrected) : List Note :=
  match Correction.target? source corrected with
  | none => []
  | some path =>
    [.fileWritten corrected.contents.length path,
      .fileCorrected corrected.corrections.length rule.id path]

/-- Runs the rules one after another. A rule whose correction is refused is skipped; a failed write
ends the attempt. -/
def correctWith {σ : Type} (linter : Linter) (writer : Writer σ) :
    List Rule → Source → σ → Attempt σ
  | [], _, store => ⟨.ok [], [], store⟩
  | rule :: rest, source, store =>
    match rule.correct? with
    | none => correctWith linter writer rest source store
    | some correct =>
      let context := linter.context source
      let found := context.notes ++ rule.notes context
      match correct context with
      | .error e =>
        let later := correctWith linter writer rest source store
        { later with notes := found ++ .ruleSkipped rule.id source.path e.message :: later.notes }
      | .ok corrected =>
        match Correction.commit writer source corrected store with
        | (.error e, store) => ⟨.error e, found, store⟩
        | (.ok (), store) =>
          let later := correctWith linter writer rest
            { source with contents := corrected.contents } store
          { later with
            result := later.result.map (corrected.corrections ++ ·)
            notes := found ++ commitNotes source rule corrected ++ later.notes }

def correctFile {σ : Type} (linter : Linter) (writer : Writer σ) (source : Source) (store : σ) :
    Attempt σ :=
  linter.correctWith writer linter.rules source store

/-- A run over files; a failure that no report can hold ends it. -/
structure Run (σ : Type) where
  outcomes : List Outcome
  failure : Option WriteError
  store : σ

/-- An outcome followed by what is then found in the file. -/
def withRemaining (linter : Linter) (t : Tree) (path : Path) (o : Outcome) : Outcome :=
  let remaining := linter.lintFile t path
  { o with
    violations := remaining.violations
    errors := o.errors ++ remaining.errors
    notes := o.notes ++ remaining.notes }

/-- Corrects one file and looks for what remains. -/
def correctPath {σ : Type} (linter : Linter) (tree : σ → Tree) (writer : Writer σ) (path : Path)
    (store : σ) : Run σ :=
  match (tree store).readSource path with
  | .error e => ⟨[{ errors := [e.message], notes := [.fileUnread e.message] }], none, store⟩
  | .ok source =>
    let attempt := linter.correctFile writer source store
    match attempt.result with
    | .ok corrections =>
      ⟨[linter.withRemaining (tree attempt.store) path
        { corrections := corrections, notes := attempt.notes }], none, attempt.store⟩
    | .error (.refused p reason) =>
      let message := (WriteError.refused p reason).message
      ⟨[linter.withRemaining (tree attempt.store) path
        { errors := [message], notes := attempt.notes ++ [.fileUnwritten message] }],
        none, attempt.store⟩
    | .error e => ⟨[{ notes := attempt.notes }], some e, attempt.store⟩

def correctEach {σ : Type} (linter : Linter) (tree : σ → Tree) (writer : Writer σ) :
    List Path → σ → Run σ
  | [], store => ⟨[], none, store⟩
  | path :: rest, store =>
    let first := linter.correctPath tree writer path store
    match first.failure with
    | some _ => first
    | none =>
      let later := linter.correctEach tree writer rest first.store
      { later with outcomes := first.outcomes ++ later.outcomes }

def correctPaths {σ : Type} (linter : Linter) (tree : σ → Tree) (writer : Writer σ)
    (paths : List String) (store : σ) : Run σ :=
  linter.correctEach tree writer (linter.files (tree store) paths) store

end PatternLint.Linter
