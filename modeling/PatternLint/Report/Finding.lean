import PatternLint.Severity
import PatternLint.Source

/-! What is found in a file, and what has been corrected there. -/

namespace PatternLint

structure Violation where
  ruleId : String
  ruleName : String
  reason : String
  severity : Severity
  location : Location
deriving DecidableEq

def Violation.line (v : Violation) : String :=
  s!"{v.location}: {v.severity.name}: {v.ruleName} Violation: {v.reason} ({v.ruleId})"

structure Correction where
  ruleId : String
  ruleName : String
  location : Location
deriving DecidableEq

def Correction.line (c : Correction) : String :=
  s!"{c.location} Corrected {c.ruleName} ({c.ruleId})"

end PatternLint
