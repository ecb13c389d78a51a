import PatternLint.Proofs.Correction.Rewrite
import PatternLint.Rule.Basic
import PatternLint.Rule.Declaration

/-! The rule that optional variables are not initialized to `nil`, since they are so anyway. -/

namespace PatternLint.OptionalInitialization

def description : Description where
  identifier := "optional_initialization"
  name := "Optional Initialization"
  reason := "Optionals do not need to be initialized to nil"
  nonTriggering := [
    "var obj: Bool? = nil, obj1: Bool?",
    "var boolean0: Bool? = nil, boolean1: Bool?",
    "var boolean: Bool? /**this is a comment*/= nil",
    "var boolean: /**this is a comment*/Bool? = nil",
    "var image: UIImage?",
    "let image: UIImage? = nil",
    "// var image: UIImage? = nil",
    "let sample = \"\"\"\nvar image: UIImage? = nil\n\"\"\""]
  triggering := [
    "var image: UIImage? = nil",
    "var onCallback: ((UIImage?) -> Void)? = nil",
    "var onCallback: ((NSData) -> Void)?\n= nil",
    "var first: Bool?, second: Bool? = nil"]
  corrections := [
    ("var image: UIImage? = nil", "var image: UIImage?      "),
    ("var variable: ((UIImage?) -> Void)? = nil", "var variable: ((UIImage?) -> Void)?      "),
    ("var onCallback: ((NSData) -> Void)?\n= nil", "var onCallback: ((NSData) -> Void)?\n     "),
    ("var count: Int?=nil", "var count: Int?    "),
    ("var first: Bool?, second: Bool? = nil", "var first: Bool?, second: Bool?      ")]

/-- The equals sign and `nil` become spaces; the blanks between them stay. -/
def blanking : Rewrite where
  pattern := "(\\s*)=(\\s*)nil".toList
  replacement := "\\1 \\2   ".toList

/-- The matches that no directive disables. -/
def enabledMatches (context : Context) : List Match :=
  context.regions.filter description.identifier
    (Declaration.find context.source.contents context.excluded) (·.span.start)

def violation (severity : Severity) (context : Context) (m : Match) : Violation where
  ruleId := description.identifier
  ruleName := description.name
  reason := description.reason
  severity := severity
  location := context.source.locate m.span.start

def validate (severity : Severity) (context : Context) : List Violation :=
  (enabledMatches context).map (violation severity context)

/-- The correction as the library of patterns leaves it. -/
def plan (context : Context) : Except Rewrite.Failure Corrected :=
  Correction.plan .standard context.source ((enabledMatches context).map Match.span) blanking
    description.identifier description.name

/-- The library reads this pattern and this template, so only a refusal is left. -/
theorem plan_ne_unforeseen (context : Context) (e : Unforeseen) :
    plan context ≠ .error (.unforeseen e) := by
  intro h
  unfold plan Correction.plan at h
  split at h
  · cases h
  · cases happly : blanking.apply .standard context.source.contents
        ((enabledMatches context).map Match.span) with
    | ok contents =>
      rw [happly] at h
      cases h
    | error f =>
      rw [happly] at h
      obtain rfl := Except.error.inj h
      rcases Rewrite.unread_of_apply happly with hcompile | ⟨compiled, hcompile, hexpand⟩
      · cases hcompile
      · obtain rfl := Except.ok.inj hcompile
        cases hexpand

def correct (context : Context) : Except CorrectionError Corrected :=
  match h : plan context with
  | .ok corrected => .ok corrected
  | .error (.refused e) => .error e
  | .error (.unforeseen e) => absurd h (plan_ne_unforeseen context e)

theorem correct_eq_ok_iff {context : Context} {corrected : Corrected} :
    correct context = .ok corrected ↔ plan context = .ok corrected := by
  unfold correct
  split
  · rename_i h
    simp [h]
  · rename_i h
    simp [h]
  · rename_i e h
    exact absurd h (plan_ne_unforeseen context e)

def discardNote? : Candidate → Option Note
  | .excluded extent => some (.matchDiscarded extent)
  | _ => none

def notes (context : Context) : List Note :=
  let candidates := Declaration.candidates context.source.contents context.excluded
  let disabled := (Matching.accepted candidates).length - (enabledMatches context).length
  candidates.filterMap discardNote? ++
    if disabled = 0 then []
    else [.matchesDisabled description.identifier disabled context.source.path]

def rule : Rule where
  description := description
  optIn := true
  severity := .warning
  find := fun severity context => .ok (validate severity context)
  notes := notes
  correct? := some correct

end PatternLint.OptionalInitialization
