import PatternLint.Rule.Basic

/-! Rules checked against examples. -/

namespace PatternLint

inductive ExampleKind where
  | nonTriggering
  | triggering
  | correction
deriving DecidableEq

def ExampleKind.name : ExampleKind → String
  | nonTriggering => "non-triggering"
  | triggering => "triggering"
  | correction => "correction"

/-- The outcome of an example; a failed one has a reason. -/
structure ExampleCheck where
  kind : ExampleKind
  sample : String
  failure? : Option String

namespace ExampleCheck

def passed (c : ExampleCheck) : Bool := c.failure?.isNone

def detail (c : ExampleCheck) : String := c.failure?.getD ""

end ExampleCheck

namespace Rule

/-- An example is a file without a path, so nothing is ever written. -/
def exampleContext (sample : String) : Context :=
  .build Syntax.classify { contents := sample.toList }

def violationCount (rule : Rule) (sample : String) : Except EngineError Nat :=
  List.length <$> rule.validate (exampleContext sample)

def checkNonTriggering (rule : Rule) (sample : String) : Except EngineError ExampleCheck := do
  let count ← rule.violationCount sample
  return ⟨.nonTriggering, sample,
    if count = 0 then none else some s!"expected no violations, found {count}"⟩

def checkTriggering (rule : Rule) (sample : String) : Except EngineError ExampleCheck := do
  let count ← rule.violationCount sample
  return ⟨.triggering, sample,
    if count = 1 then none else some s!"expected exactly one violation, found {count}"⟩

def checkCorrection (correct : Context → Except CorrectionError Corrected)
    (pair : String × String) : Except EngineError ExampleCheck := do
  let (before, expected) := pair
  let actual := (← (correct (exampleContext before)).mapError .correction).contents
  return ⟨.correction, before,
    if actual = expected.toList then none
    else some s!"expected {quoted expected}, got {actual.quoted}"⟩

def checkCorrections (rule : Rule) (pairs : List (String × String)) :
    Except EngineError (List ExampleCheck) :=
  match rule.correct? with
  | none => .ok []
  | some correct => pairs.mapM (checkCorrection correct)

/-- All examples of a rule's own description. -/
def verify (rule : Rule) : Except EngineError (List ExampleCheck) := do
  let d := rule.description
  let nonTriggering ← d.nonTriggering.mapM rule.checkNonTriggering
  let triggering ← d.triggering.mapM rule.checkTriggering
  return nonTriggering ++ triggering ++ (← rule.checkCorrections d.corrections)

end Rule

end PatternLint
