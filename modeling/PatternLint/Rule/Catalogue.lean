import PatternLint.Rule.Verification
import PatternLint.Text.Padded

/-! The rules as a table, each with those of its examples that fail. -/

namespace PatternLint.Catalogue

def row (identifier optIn correctable severity name : String) : String :=
  String.intercalate " | "
    [padRight 28 identifier, padRight 6 optIn, padRight 11 correctable, padRight 8 severity, name]

def yesNo (b : Bool) : String := if b then "yes" else "no"

def heading : List String :=
  let names := row "identifier" "opt-in" "correctable" "severity" "name"
  [names, String.ofList (List.replicate names.length '-')]

def ruleRow (rule : Rule) : String :=
  row rule.id (yesNo rule.optIn) (yesNo rule.isCorrectable) rule.severity.name
    rule.description.name

def failureLine (c : ExampleCheck) : String :=
  s!"  FAIL [{c.kind.name}] {quoted c.sample}: {c.detail}"

def list (rules : List Rule) : List String := heading ++ rules.map ruleRow

/-- A rule with its failed examples. -/
structure Verified where
  rule : Rule
  failed : List ExampleCheck

def verify (rule : Rule) : Except EngineError Verified := do
  return ⟨rule, (← rule.verify).filter fun c => !c.passed⟩

def failureCount (results : List Verified) : Nat := (results.flatMap (·.failed)).length

def verdict (failures : Nat) : String := if failures = 0 then "PASS" else s!"FAIL ({failures})"

/-- The table with the failed examples under their rules, and what that comes to. -/
def listVerified (results : List Verified) : List String :=
  heading ++ results.flatMap (fun v => ruleRow v.rule :: v.failed.map failureLine) ++
    ["", s!"Example verification: {verdict (failureCount results)}"]

/-- What is noted while the examples of a rule are checked; those of corrections come last. -/
def notes (rule : Rule) : List Note :=
  let d := rule.description
  let befores := if rule.isCorrectable then d.corrections.map Prod.fst else []
  (d.nonTriggering ++ d.triggering ++ befores).flatMap fun sample =>
    let context := Rule.exampleContext sample
    context.notes ++ rule.notes context

end PatternLint.Catalogue
