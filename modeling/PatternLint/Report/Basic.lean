import PatternLint.Report.Document
import PatternLint.Report.Finding

/-! The report of a run: what was found and corrected, what failed, and how that counts. -/

namespace PatternLint

/-- Violations counted by severity. -/
structure Tally where
  error : Int := 0
  warning : Int := 0
deriving DecidableEq

namespace Tally

def increment (t : Tally) : Severity → Tally
  | .error => { t with error := t.error + 1 }
  | .warning => { t with warning := t.warning + 1 }

/-- The counts as reports list them. -/
def rows (t : Tally) : List (Severity × Int) := [(.error, t.error), (.warning, t.warning)]

def total (t : Tally) : Int := t.error + t.warning

end Tally

structure Report where
  tally : Tally := {}
  violations : List Violation := []
  corrections : List Correction := []
  errors : List String := []
  filesInspected : Nat := 0

namespace Report

def addViolation (r : Report) (v : Violation) : Report :=
  { r with tally := r.tally.increment v.severity, violations := r.violations ++ [v] }

def addCorrection (r : Report) (c : Correction) : Report :=
  { r with corrections := r.corrections ++ [c] }

def addError (r : Report) (message : String) : Report :=
  { r with errors := r.errors ++ [message] }

def addFiles (r : Report) (count : Nat) : Report :=
  { r with filesInspected := r.filesInspected + count }

def passed (r : Report) : Bool := r.tally.error = 0 && r.errors.isEmpty

/-- The weight of the worst violation. -/
def worst (r : Report) : Nat := r.violations.foldl (fun w v => max w v.severity.weight) 0

/-- 2 for errors of any kind, and for warnings 1 where they are to count. -/
def exitCode (r : Report) (strict : Bool) : Nat :=
  if !r.errors.isEmpty then 2
  else if Severity.weight .error ≤ r.worst then 2
  else if strict && 0 < r.worst then 1
  else 0

/-- Whether `a` may stand before `b`: by severity, then by file, then by offset. -/
def sortsBefore (a b : Violation) : Bool :=
  let fa := a.location.file.getD ""
  let fb := b.location.file.getD ""
  if a.severity ≠ b.severity then a.severity.rank < b.severity.rank
  else if fa ≠ fb then decide (fa < fb)
  else a.location.offset ≤ b.location.offset

/-- The first `limit` of a list; a negative limit leaves out that many at the end. -/
def takeSigned {α : Type} (limit : Int) (items : List α) : List α :=
  if 0 ≤ limit then items.take limit.toNat else items.take (items.length - (-limit).toNat)

/-- The violations that matter most. -/
def top (r : Report) (limit : Int) : List Violation :=
  takeSigned limit (r.violations.mergeSort sortsBefore)

end Report

namespace Location

def document (l : Location) : Document :=
  .record [("file", match l.file with
      | some f => .string f
      | none => .null),
    ("line", .number l.line), ("character", .number l.character), ("offset", .number l.offset)]

end Location

def Violation.document (v : Violation) : Document :=
  .record [("rule_id", .string v.ruleId), ("rule_name", .string v.ruleName),
    ("reason", .string v.reason), ("severity", .string v.severity.name),
    ("location", v.location.document)]

def Correction.document (c : Correction) : Document :=
  .record [("rule_id", .string c.ruleId), ("rule_name", .string c.ruleName),
    ("location", c.location.document)]

def Tally.document (t : Tally) : Document :=
  .record (t.rows.map fun (severity, count) => (severity.name, .number count))

def Report.document (r : Report) : Document :=
  .record [("summary", r.tally.document),
    ("violations", .list (r.violations.map Violation.document)),
    ("corrections", .list (r.corrections.map Correction.document)),
    ("errors", .list (r.errors.map .string)),
    ("files_inspected", .number r.filesInspected),
    ("passed", .bool r.passed)]

end PatternLint
