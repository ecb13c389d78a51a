import PatternLint.Text.Quoted

/-! How serious a violation is. -/

namespace PatternLint

inductive Severity where
  | warning
  | error
deriving DecidableEq

/-- A name that no severity has. -/
structure UnknownSeverity where
  name : String

def UnknownSeverity.message (e : UnknownSeverity) : String :=
  s!"{quoted e.name} is not a valid Severity"

namespace Severity

def name : Severity → String
  | warning => "warning"
  | error => "error"

def ofName (name : String) : Except UnknownSeverity Severity :=
  if name = "warning" then .ok warning
  else if name = "error" then .ok error
  else .error ⟨name⟩

theorem ofName_name (s : Severity) : ofName s.name = .ok s := by
  cases s <;> rfl

/-- The weight of a violation in the exit code; no violation weighs nothing. -/
def weight : Severity → Nat
  | warning => 1
  | error => 2

/-- The place in reports: errors come first. -/
def rank : Severity → Nat
  | error => 0
  | warning => 1

end Severity

end PatternLint
