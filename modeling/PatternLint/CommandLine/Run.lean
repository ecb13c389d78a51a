import PatternLint.CommandLine.Request
import PatternLint.Configuration.Load
import PatternLint.Linter.Correct
import PatternLint.Report.Table
import PatternLint.Rule.Catalogue

/-! Runs of a command line over a tree of files. -/

namespace PatternLint.CommandLine

def versionText : String := "0.1.0"

/-- What a finished run prints, and how it exits. -/
structure Output where
  exit : Nat := 0
  stdout : String := ""
  stderr : String := ""
deriving DecidableEq

/-- Why a run breaks off. -/
inductive Breakdown where
  | load (e : LoadFailure)
  | engine (e : EngineError)
  | write (e : WriteError)
  | save (e : Tree.SaveError)

def Breakdown.message : Breakdown → String
  | load e => e.message
  | engine e => e.message
  | write e => e.message
  | save e => e.reason

/-- Each text on a line of its own. -/
def lines (texts : List String) : String := String.join (texts.map (· ++ "\n"))

/-- The notes that a user sees. -/
def shownNotes (verbose : Bool) (notes : List Note) : String :=
  lines ((notes.filter fun n => verbose || n.level.matters).map Note.line)

def usage : Option Command → String
  | none =>
    let names := String.intercalate " | " (Command.all.map Command.name)
    s!"usage: {programName} ({names}) ..."
  | some c =>
    let options := String.intercalate " " (c.keys.map Key.shown)
    s!"usage: {programName} {c.name} {options}"

def Misuse.output (m : Misuse) : Output := { exit := 2, stderr := lines [m.line] }

/-- What a report prints of itself before it is written as a document. -/
def summary (format : Format) (report : Report) : List String :=
  match format with
  | .json => []
  | .text =>
    report.corrections.map Correction.line ++ report.violations.map Violation.line ++
      [report.table 5]

/-- Hands a report over: the document goes to the output file if one is named. -/
def deliver (settings : Settings) (report : Report) (t : Tree) :
    Except Breakdown (List String) × Tree :=
  let summary := summary settings.format report
  let document := report.document.render 0
  match settings.output.filter (· ≠ ""), settings.format with
  | none, .text => (.ok summary, t)
  | none, .json => (.ok [document], t)
  | some name, format =>
    match t.save (.ofString name) document.toList with
    | (.error e, t) => (.error (.save e), t)
    | (.ok (), t) =>
      let ending := match format with
        | .text => ["", s!"Report written to {name}"]
        | .json => []
      (.ok (summary ++ ending), t)

def finish (settings : Settings) (notes : List Note) (exit : Nat) (report : Report) (t : Tree) :
    Except Breakdown Output × Tree :=
  match deliver settings report t with
  | (.error e, t) => (.error e, t)
  | (.ok printed, t) =>
    (.ok ⟨exit, lines printed, shownNotes settings.verbose notes⟩, t)

def lint (settings : Settings) (notes : List Note) (linter : Linter) (t : Tree) :
    Except Breakdown Output × Tree :=
  let outcomes := linter.lintPaths t settings.paths
  let report := Report.ofOutcomes outcomes
  finish settings (notes ++ outcomes.flatMap Outcome.notes) (report.exitCode settings.strict)
    report t

def autocorrect (settings : Settings) (notes : List Note) (linter : Linter) (t : Tree) :
    Except Breakdown Output × Tree :=
  let run := linter.correctPaths (fun t => t) Tree.writer settings.paths t
  match run.failure with
  | some e => (.error (.write e), run.store)
  | none =>
    let report := Report.ofOutcomes run.outcomes
    finish settings (notes ++ run.outcomes.flatMap Outcome.notes)
      (if report.errors.isEmpty then 0 else 2) report run.store

/-- Loads the configuration and goes on with a linter made from it. -/
def withLinter (loader : Yaml.Loader) (settings : Settings) (t : Tree)
    (go : List Note → Linter → Except Breakdown Output × Tree) : Except Breakdown Output × Tree :=
  let loaded := Configuration.load loader t Linter.knownRules settings.config
  match loaded.result with
  | .error (.failure e) => (.error (.load e), t)
  | .error (.configuration e) =>
    let stderr := shownNotes settings.verbose loaded.notes ++
      lines [s!"Configuration error: {e.message}"]
    (.ok { exit := 3, stderr }, t)
  | .ok c => go (loaded.notes ++ c.enabledNotes Linter.allRules) (.ofConfiguration c)

def rules (settings : Settings) : Except Breakdown Output :=
  if settings.verify then
    match Linter.allRules.mapM Catalogue.verify with
    | .error e => .error (.engine e)
    | .ok results =>
      .ok {
        exit := if Catalogue.failureCount results = 0 then 0 else 1
        stdout := lines (Catalogue.listVerified results)
        stderr := shownNotes settings.verbose (Linter.allRules.flatMap Catalogue.notes) }
  else .ok { stdout := lines (Catalogue.list Linter.allRules) }

def runCommand (loader : Yaml.Loader) (settings : Settings) (t : Tree) :
    Command → Except Breakdown Output × Tree
  | .lint => withLinter loader settings t fun notes linter => lint settings notes linter t
  | .autocorrect =>
    withLinter loader settings t fun notes linter => autocorrect settings notes linter t
  | .rules => (rules settings, t)

/-- Runs a command line; the tree is the one that it leaves, also where it breaks off. -/
def run (loader : Yaml.Loader) (t : Tree) (arguments : List String) :
    Except Breakdown Output × Tree :=
  match Request.ofArguments arguments with
  | .error m => (.ok m.output, t)
  | .ok (.help command) => (.ok { stdout := lines [usage command] }, t)
  | .ok .version => (.ok { stdout := lines [s!"{programName} {versionText}"] }, t)
  | .ok (.run command settings) => runCommand loader settings t command

end PatternLint.CommandLine
