import PatternLint.Report.Basic
import PatternLint.Text.Padded

/-! The summary of a report as a table for people. -/

namespace PatternLint.Report

def rule (width : Nat) (c : Char) : String := String.ofList (List.replicate width c)

def row (name count : String) : String := s!"{padRight 10 name} | {padLeft 5 count}"

def violationLines (v : Violation) : List String :=
  [s!"[{v.severity.name}] {v.ruleName} ({v.ruleId})", s!"  Location: {v.location}"]

def countLines (r : Report) : List String :=
  let header := row "Severity" "Count"
  let line := rule header.length '-'
  ["Lint Summary", rule 40 '=', header, line] ++
    r.tally.rows.map (fun (severity, count) => row severity.name (toString count)) ++
    [line, "Status    : " ++ if r.passed then "PASS" else "FAIL",
      s!"Files     : {r.filesInspected}", s!"Violations: {r.tally.total}"] ++
    (if r.corrections.isEmpty then [] else [s!"Corrected : {r.corrections.length}"]) ++
    (if r.errors.isEmpty then [] else [s!"Errors    : {r.errors.length}"])

def topLines (r : Report) (limit : Int) : List String :=
  match r.top limit with
  | [] => []
  | violations => ["", "Top Violations", rule 40 '-'] ++ violations.flatMap violationLines

def table (r : Report) (limit : Int) : String :=
  String.intercalate "\n" (r.countLines ++ r.topLines limit)

end PatternLint.Report
