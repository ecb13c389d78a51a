import PatternLint.Correction.Apply
import PatternLint.Region.Map
import PatternLint.Syntax.Classify

/-! Rules, and what they look at. -/

namespace PatternLint

/-- A file with its excluded items and the regions of its directives. -/
structure Context where
  source : Source
  excluded : Syntax.ExcludedSet
  regions : Regions

namespace Context

def build (classifier : Syntax.Classifier) (source : Source) : Context :=
  let excluded := classifier source.contents
  ⟨source, excluded, .ofSource source excluded⟩

def notes (context : Context) : List Note :=
  (Region.directives context.source context.excluded).map fun d => .directiveFound d.line

end Context

/-- What a rule is, with examples of it: a triggering example has exactly one violation, any other
none, and a correction pairs a text with what becomes of it. -/
structure Description where
  identifier : String
  name : String
  reason : String
  severity : Severity := .warning
  nonTriggering : List String := []
  triggering : List String := []
  corrections : List (String × String) := []

/-- A failure of the engine. -/
inductive EngineError where
  | correction (e : CorrectionError)
  | other (message : String)

def EngineError.message : EngineError → String
  | correction e => e.message
  | other message => message

structure Rule where
  description : Description
  optIn : Bool
  severity : Severity
  /-- The violations of a file, reported with a severity. -/
  find : Severity → Context → Except EngineError (List Violation)
  /-- What is noted while matches are looked for. -/
  notes : Context → List Note := fun _ => []
  /-- A rule that corrects nothing has none. -/
  correct? : Option (Context → Except CorrectionError Corrected) := none

namespace Rule

def id (rule : Rule) : String := rule.description.identifier

def validate (rule : Rule) (context : Context) : Except EngineError (List Violation) :=
  rule.find rule.severity context

def isCorrectable (rule : Rule) : Bool := rule.correct?.isSome

end Rule

end PatternLint
