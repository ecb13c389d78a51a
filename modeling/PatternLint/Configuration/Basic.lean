import PatternLint.Note
import PatternLint.Path
import PatternLint.Rule.Basic
import PatternLint.Value.Printed

/-! Configurations: which rules run, with what severity, and on which files. -/

namespace PatternLint

structure Configuration where
  disabledRules : List String := []
  optInRules : List String := []
  onlyRules : List String := []
  included : List String := []
  excluded : List String := []
  severities : List (String × Severity) := []
  source : Option Path := none

/-- Why there is no configuration. -/
inductive ConfigurationError where
  | notMapping (source : Option Path)
  | notStrings (key : String)
  /-- The value under the rule, as it is printed. -/
  | invalidSeverity (shown rule : String)
  | fileNotFound (path : String)
  | malformed (path : Path) (detail : String)

def ConfigurationError.message : ConfigurationError → String
  | notMapping source =>
    let shown := match source with
      | some p => p.toString
      | none => "<memory>"
    s!"Configuration at {shown} is not a mapping"
  | notStrings key => s!"'{key}' must be a list of strings"
  | invalidSeverity shown rule =>
    s!"Invalid severity {shown} for '{rule}' (expected one of: warning, error)"
  | fileNotFound path => s!"Configuration file not found: {path}"
  | malformed path detail => s!"Invalid YAML in {path}: {detail}"

namespace Configuration

/-- Why a value gives no configuration: it is at fault, or it cannot be printed. -/
inductive Failure where
  | fault (e : ConfigurationError)
  | unforeseen (e : Unforeseen)

abbrev Entries := List (Value × Value)

/-- The keys whose values are lists of strings. -/
def listKeys : List String := ["disabled_rules", "opt_in_rules", "only_rules", "included", "excluded"]

def strings? : List Value → Option (List String)
  | [] => some []
  | .text s :: vs => (strings? vs).map (s :: ·)
  | _ => none

/-- The strings under a key; one string stands for a list of it, and nothing for an empty list. -/
def stringsAt (entries : Entries) (key : String) : Except Failure (List String) :=
  match Value.get? entries key with
  | none => .ok []
  | some .null => .ok []
  | some (.text s) => .ok [s]
  | some (.list items) =>
    match strings? items with
    | some ss => .ok ss
    | none => .error (.fault (.notStrings key))
  | some _ => .error (.fault (.notStrings key))

/-- The value that names a severity: itself, or its own `severity` entry. -/
def severityValue : Value → Value
  | .mapping entries => (Value.get? entries "severity").getD .null
  | v => v

/-- What comes of telling that a value names no severity, for which it is printed. -/
def refusal (rule : String) (value : Value) : Failure :=
  match value.quoted with
  | .ok shown => .fault (.invalidSeverity shown rule)
  | .error e => .unforeseen e

/-- The severity that a value names, in letters of either case. A value that cannot be printed for
its own sake names none. -/
def severityOf (rule : String) (value : Value) : Except Failure Severity :=
  let value := severityValue value
  match value.shown with
  | .error (.badValue _) => .error (refusal rule value)
  | .error e => .error (.unforeseen e)
  | .ok shown =>
    match Severity.ofName shown.toLower with
    | .ok s => .ok s
    | .error _ => .error (refusal rule value)

/-- The rule that an entry sets the severity of. -/
def ruleOf? (known : List String) : Value → Option String
  | .text key => if !listKeys.contains key && known.contains key then some key else none
  | _ => none

def isListKey : Value → Bool
  | .text key => listKeys.contains key
  | _ => false

def severityError? (known : List String) (entry : Value × Value) : Option Failure :=
  match ruleOf? known entry.1 with
  | none => none
  | some rule =>
    match severityOf rule entry.2 with
    | .ok _ => none
    | .error e => some e

/-- The severity that the entries give a rule. -/
def severityFor? (entries : Entries) (rule : String) : Option (String × Severity) :=
  match Value.get? entries rule with
  | none => none
  | some value =>
    match severityOf rule value with
    | .ok s => some (rule, s)
    | .error _ => none

def readSeverities (known : List String) (entries : Entries) :
    Except Failure (List (String × Severity)) :=
  match entries.findSome? (severityError? known) with
  | some e => .error e
  | none =>
    .ok ((known.filter fun rule => !listKeys.contains rule).eraseDups.filterMap
      (severityFor? entries))

/-- The entries of a value that stands for a configuration; nothing stands for an empty one. -/
def entries (source : Option Path) : Value → Except Failure Entries
  | .null => .ok []
  | .mapping entries => .ok entries
  | _ => .error (.fault (.notMapping source))

/-- The lists come first, so a fault in one of them is reported before any other. -/
def ofValue (known : List String) (source : Option Path) (value : Value) :
    Except Failure Configuration := do
  let entries ← entries source value
  let disabledRules ← stringsAt entries "disabled_rules"
  let optInRules ← stringsAt entries "opt_in_rules"
  let onlyRules ← stringsAt entries "only_rules"
  let included ← stringsAt entries "included"
  let excluded ← stringsAt entries "excluded"
  let severities ← readSeverities known entries
  return { disabledRules, optInRules, onlyRules, included, excluded, severities, source }

def keyNote? (known : List String) (key : Value) : Option Note :=
  match key.shown with
  | .ok shown =>
    if !isListKey key && (ruleOf? known key).isNone then some (.unknownKey shown) else none
  | .error _ => none

/-- Unknown keys that can be printed are noted up to the first severity that is at fault. -/
def keyNotes (known : List String) (entries : Entries) : List Note :=
  (entries.takeWhile fun e => (severityError? known e).isNone).filterMap fun e =>
    keyNote? known e.1

/-- Rules that nobody knows are noted, if any rule is known. -/
def ruleNotes (known : List String) (configuration : Configuration) : List Note :=
  let unknown (key : String) (rules : List String) : List Note :=
    (rules.filter fun rule => !known.isEmpty && !known.contains rule).map (.unknownRule key)
  unknown "disabled_rules" configuration.disabledRules ++
    unknown "opt_in_rules" configuration.optInRules ++
    unknown "only_rules" configuration.onlyRules

/-- What is noted while a value is read. -/
def notes (known : List String) (source : Option Path) (value : Value) : List Note :=
  match entries source value with
  | .error _ => []
  | .ok entries =>
    match listKeys.mapM (stringsAt entries) with
    | .error _ => []
    | .ok _ =>
      keyNotes known entries ++
        match ofValue known source value with
        | .ok configuration => ruleNotes known configuration
        | .error _ => []

def isEnabled (c : Configuration) (rule : String) (optIn : Bool) : Bool :=
  if c.onlyRules ≠ [] then c.onlyRules.contains rule
  else if c.disabledRules.contains rule then false
  else !optIn || c.optInRules.contains rule

/-- The enabled rules, each with its configured severity or else its own. -/
def enabledRules (c : Configuration) (rules : List Rule) : List Rule :=
  (rules.filter fun rule => c.isEnabled rule.id rule.optIn).map fun rule =>
    { rule with severity := (c.severities.lookup rule.id).getD rule.severity }

def enabledNotes (c : Configuration) (rules : List Rule) : List Note :=
  (rules.filter fun rule => !c.isEnabled rule.id rule.optIn).map fun rule =>
    .ruleNotEnabled rule.id

/-- Where to look: the paths asked for, else those included, else the working directory. -/
def roots (c : Configuration) (paths : List String) : List String :=
  if paths ≠ [] then paths
  else if c.included ≠ [] then c.included
  else ["."]

end Configuration

end PatternLint
