import PatternLint.Configuration.Basic
import PatternLint.Files.Access
import PatternLint.Files.Discovery
import PatternLint.Report.Basic
import PatternLint.Rule.OptionalInitialization

/-! Runs of rules over files. A file that cannot be read or written, or that a rule fails on, is an
error of its own and leaves the rest of the run as it is. -/

namespace PatternLint

structure Linter where
  configuration : Configuration := {}
  rules : List Rule
  classifier : Syntax.Classifier := Syntax.classify

/-- What a run makes of one file. -/
structure Outcome where
  violations : List Violation := []
  corrections : List Correction := []
  errors : List String := []
  notes : List Note := []

/-- The outcomes of a run as a report. -/
def Report.ofOutcomes (outcomes : List Outcome) : Report :=
  outcomes.foldl (fun r o =>
    let r := o.corrections.foldl addCorrection r
    let r := o.errors.foldl addError r
    let r := o.violations.foldl addViolation r
    r.addFiles 1) {}

namespace Linter

def allRules : List Rule := [OptionalInitialization.rule]

def knownRules : List String := allRules.map Rule.id

def ofConfiguration (configuration : Configuration) : Linter where
  configuration := configuration
  rules := configuration.enabledRules allRules

def extensions : List String := [".swift"]

def files (linter : Linter) (t : Tree) (paths : List String) : List Path :=
  Discovery.files t (linter.configuration.roots paths) extensions linter.configuration.excluded

def context (linter : Linter) (source : Source) : Context := .build linter.classifier source

/-- The violations of every rule, by offset; those of one offset keep the order of the rules. -/
def lint (linter : Linter) (source : Source) : Except EngineError (List Violation) := do
  let found ← linter.rules.mapM fun rule => rule.validate (linter.context source)
  return found.flatten.mergeSort fun a b => a.location.offset ≤ b.location.offset

/-- The rules up to the first that fails. -/
def reached (context : Context) : List Rule → List Rule
  | [] => []
  | rule :: rest =>
    match rule.validate context with
    | .ok _ => rule :: reached context rest
    | .error _ => [rule]

def lintNotes (linter : Linter) (source : Source) : List Note :=
  let context := linter.context source
  context.notes ++ (reached context linter.rules).flatMap fun rule => rule.notes context

def lintFile (linter : Linter) (t : Tree) (path : Path) : Outcome :=
  match t.readSource path with
  | .error e => { errors := [e.message], notes := [.fileUnread e.message] }
  | .ok source =>
    match linter.lint source with
    | .error e =>
      { errors := [e.message], notes := linter.lintNotes source ++ [.fileUnread e.message] }
    | .ok violations => { violations, notes := linter.lintNotes source }

def lintPaths (linter : Linter) (t : Tree) (paths : List String) : List Outcome :=
  (linter.files t paths).map (linter.lintFile t)

end Linter

end PatternLint
