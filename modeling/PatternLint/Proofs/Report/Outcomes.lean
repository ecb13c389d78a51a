import PatternLint.Linter.Basic

/-! A report holds what the outcomes hold, one after another, and counts them. -/

namespace PatternLint.Report

theorem foldl_addCorrection (corrections : List Correction) (r : Report) :
    corrections.foldl addCorrection r = { r with corrections := r.corrections ++ corrections } := by
  induction corrections generalizing r with
  | nil => simp
  | cons c corrections ih => simp [ih, addCorrection]

theorem foldl_addError (messages : List String) (r : Report) :
    messages.foldl addError r = { r with errors := r.errors ++ messages } := by
  induction messages generalizing r with
  | nil => simp
  | cons message messages ih => simp [ih, addError]

theorem foldl_addViolation (violations : List Violation) (r : Report) :
    violations.foldl addViolation r =
      { r with
        tally := violations.foldl (fun t v => t.increment v.severity) r.tally
        violations := r.violations ++ violations } := by
  induction violations generalizing r with
  | nil => simp
  | cons v violations ih => simp [ih, addViolation]

theorem foldl_outcomes (outcomes : List Outcome) (r : Report) :
    outcomes.foldl (fun r o =>
      let r := o.corrections.foldl addCorrection r
      let r := o.errors.foldl addError r
      let r := o.violations.foldl addViolation r
      r.addFiles 1) r =
      { tally := (outcomes.flatMap Outcome.violations).foldl
          (fun t v => t.increment v.severity) r.tally
        violations := r.violations ++ outcomes.flatMap Outcome.violations
        corrections := r.corrections ++ outcomes.flatMap Outcome.corrections
        errors := r.errors ++ outcomes.flatMap Outcome.errors
        filesInspected := r.filesInspected + outcomes.length } := by
  induction outcomes generalizing r with
  | nil => simp
  | cons o outcomes ih =>
    rw [List.foldl_cons, ih]
    simp only [foldl_addCorrection, foldl_addError, foldl_addViolation, addFiles,
      List.flatMap_cons, List.append_assoc, List.foldl_append, List.length_cons]
    rw [Nat.add_assoc, Nat.add_comm 1]

theorem ofOutcomes_eq (outcomes : List Outcome) :
    ofOutcomes outcomes =
      { tally := (outcomes.flatMap Outcome.violations).foldl
          (fun t v => t.increment v.severity) {}
        violations := outcomes.flatMap Outcome.violations
        corrections := outcomes.flatMap Outcome.corrections
        errors := outcomes.flatMap Outcome.errors
        filesInspected := outcomes.length } := by
  rw [ofOutcomes, foldl_outcomes]
  simp

end PatternLint.Report
