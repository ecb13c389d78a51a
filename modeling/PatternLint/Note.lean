import PatternLint.Correction.Rewrite
import PatternLint.Path

/-! What a run notes along its way. -/

namespace PatternLint

inductive Level where
  | debug
  | info
  | warning
  | error
deriving DecidableEq

def Level.name : Level → String
  | debug => "DEBUG"
  | info => "INFO"
  | warning => "WARNING"
  | error => "ERROR"

/-- Levels that are shown even where the user asked for no detail. -/
def Level.matters : Level → Bool
  | debug => false
  | info => false
  | warning => true
  | error => true

structure Note where
  level : Level
  origin : String
  text : String
deriving DecidableEq

namespace Note

def line (n : Note) : String := s!"{n.level.name} {n.origin}: {n.text}"

def directiveFound (line : Nat) : Note :=
  ⟨.debug, "swiftguard.regions", s!"Found directive at line {line}"⟩

def matchDiscarded (extent : Span) : Note :=
  ⟨.debug, "swiftguard.matching",
    s!"Discarding match at [{extent.start}, {extent.stop}) inside comment or string"⟩

def shownPath : Option Path → String
  | some p => p.toString
  | none => "None"

def matchesDisabled (rule : String) (count : Nat) (path : Option Path) : Note :=
  ⟨.debug, s!"swiftguard.rules.{rule}",
    s!"{count} {rule} match(es) disabled by directives in {shownPath path}"⟩

def fileWritten (count : Nat) (path : Path) : Note :=
  ⟨.debug, "swiftguard.utils.fileio", s!"Wrote {count} characters to {path}"⟩

def unknownKey (key : String) : Note :=
  ⟨.warning, "swiftguard.config", s!"Ignoring unknown configuration key '{key}'"⟩

def unknownRule (key rule : String) : Note :=
  ⟨.warning, "swiftguard.config", s!"'{key}' lists unknown rule '{rule}'"⟩

def ruleNotEnabled (rule : String) : Note :=
  ⟨.debug, "swiftguard.config", s!"Rule {rule} is not enabled"⟩

def configurationMissing (name : String) : Note :=
  ⟨.debug, "swiftguard.config", s!"No {name} found; using default configuration"⟩

def configurationLoaded (path : Path) : Note :=
  ⟨.debug, "swiftguard.config", s!"Loaded configuration from {path}"⟩

def ruleSkipped (rule : String) (path : Option Path) (reason : String) : Note :=
  let file := match path with
    | some p => p.toString
    | none => "<memory>"
  ⟨.warning, "swiftguard.linter", s!"No {rule} corrections applied to {file}: {reason}"⟩

def fileUnread (message : String) : Note := ⟨.error, "swiftguard.linter", message⟩

def fileUnwritten (message : String) : Note :=
  ⟨.error, "swiftguard.linter", s!"No corrections applied: {message}"⟩

def fileCorrected (count : Nat) (rule : String) (path : Path) : Note :=
  ⟨.info, "swiftguard.correction", s!"Corrected {count} {rule} violation(s) in {path}"⟩

end Note

end PatternLint
