import PatternLint.Note
import PatternLint.Report.Finding

/-! Corrections of a file: the new contents are computed first, and then written if they differ. -/

namespace PatternLint

/-- New contents, with the corrections that led to them. -/
structure Corrected where
  contents : Text
  corrections : List Correction := []
deriving DecidableEq

def Corrected.applied (c : Corrected) : Bool := !c.corrections.isEmpty

/-- Why a file cannot be written. -/
inductive WriteError where
  | refused (path : Path) (reason : String)
  | noParent
  | parentIsFile
deriving DecidableEq

def WriteError.message : WriteError → String
  | refused path reason => s!"Failed to write {path}: {reason}"
  | noParent => "No such file or directory"
  | parentIsFile => "Not a directory"

/-- A way to replace the contents of files kept in a store of type `σ`. -/
abbrev Writer (σ : Type) := Path → Text → σ → Except WriteError Unit × σ

namespace Correction

/-- Rewrites the spans of a file on behalf of a rule, with a correction for each span in the order
given. Nothing is rewritten without spans. -/
def plan (dialect : Dialect) (source : Source) (spans : List Span) (rw : Rewrite)
    (ruleId ruleName : String) : Except Rewrite.Failure Corrected :=
  if spans = [] then .ok { contents := source.contents }
  else do
    let contents ← rw.apply dialect source.contents spans
    return ⟨contents, spans.map fun a => ⟨ruleId, ruleName, source.locate a.start⟩⟩

/-- The path to write a correction to: that of the file, if the contents differ. -/
def target? (source : Source) (corrected : Corrected) : Option Path :=
  if corrected.contents = source.contents then none else source.path

/-- Writes what has been planned. -/
def commit {σ : Type} (writer : Writer σ) (source : Source) (corrected : Corrected) (store : σ) :
    Except WriteError Unit × σ :=
  match target? source corrected with
  | some path => writer path corrected.contents store
  | none => (.ok (), store)

/-- Why a correction fails. -/
inductive Failure where
  | rewrite (e : Rewrite.Failure)
  | write (e : WriteError)

def apply {σ : Type} (dialect : Dialect) (writer : Writer σ) (source : Source) (spans : List Span)
    (rw : Rewrite) (ruleId ruleName : String) (store : σ) : Except Failure Corrected × σ :=
  match plan dialect source spans rw ruleId ruleName with
  | .error e => (.error (.rewrite e), store)
  | .ok corrected =>
    match commit writer source corrected store with
    | (.ok (), store) => (.ok corrected, store)
    | (.error e, store) => (.error (.write e), store)

end Correction

end PatternLint
