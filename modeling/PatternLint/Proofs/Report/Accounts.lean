import PatternLint.Proofs.Report.Outcomes

/-! Reports as they are built up, one event after another. The verdict is read off the counts and
the exit code off the list of violations; since every event keeps the counts those of the list, the
two never disagree. -/

namespace PatternLint

namespace Report

variable {r : Report}

/-- What can happen to a report. -/
inductive Event where
  | violation (v : Violation)
  | correction (c : Correction)
  | error (message : String)
  | files (count : Nat)

def Event.violation? : Event → Option Violation
  | violation v => some v
  | _ => none

def Event.error? : Event → Option String
  | error message => some message
  | _ => none

def step (r : Report) : Event → Report
  | .violation v => r.addViolation v
  | .correction c => r.addCorrection c
  | .error message => r.addError message
  | .files count => r.addFiles count

/-- The report that these events make of an empty one. -/
def run (events : List Event) : Report := events.foldl step {}

/-- The counts are those of the violations that are listed. -/
structure Counted (r : Report) : Prop where
  error : r.tally.error = r.violations.countP (·.severity = .error)
  warning : r.tally.warning = r.violations.countP (·.severity = .warning)

theorem counted_step (h : Counted r) (e : Event) : Counted (r.step e) := by
  cases e with
  | violation v =>
    have herror := h.error
    have hwarning := h.warning
    cases hseverity : v.severity with
    | error =>
      constructor
      · simp [step, addViolation, Tally.increment, hseverity, herror]
      · simp [step, addViolation, Tally.increment, hseverity, hwarning]
    | warning =>
      constructor
      · simp [step, addViolation, Tally.increment, hseverity, herror]
      · simp [step, addViolation, Tally.increment, hseverity, hwarning]
  | correction c => exact ⟨h.error, h.warning⟩
  | error message => exact ⟨h.error, h.warning⟩
  | files count => exact ⟨h.error, h.warning⟩

theorem counted_foldl (h : Counted r) (events : List Event) : Counted (events.foldl step r) := by
  induction events generalizing r with
  | nil => exact h
  | cons e events ih => exact ih (counted_step h e)

theorem counted_run (events : List Event) : Counted (run events) :=
  counted_foldl ⟨rfl, rfl⟩ events

theorem foldl_step_lists (events : List Event) (r : Report) :
    (events.foldl step r).violations = r.violations ++ events.filterMap Event.violation? ∧
      (events.foldl step r).errors = r.errors ++ events.filterMap Event.error? := by
  induction events generalizing r with
  | nil => simp
  | cons e events ih =>
    obtain ⟨hviolations, herrors⟩ := ih (r.step e)
    rw [List.foldl_cons, hviolations, herrors, List.filterMap_cons, List.filterMap_cons]
    cases e with
    | violation v => simp [step, addViolation, Event.violation?, Event.error?]
    | correction c => simp [step, addCorrection, Event.violation?, Event.error?]
    | error message => simp [step, addError, Event.violation?, Event.error?]
    | files count => simp [step, addFiles, Event.violation?, Event.error?]

/-- The violations of either severity are all there are. -/
theorem countP_add_countP (violations : List Violation) :
    violations.countP (·.severity = .error) + violations.countP (·.severity = .warning) =
      violations.length := by
  induction violations with
  | nil => rfl
  | cons v violations ih =>
    rw [List.countP_cons, List.countP_cons, List.length_cons]
    cases v.severity with
    | error => simp; omega
    | warning => simp; omega

theorem Counted.total (h : Counted r) : r.tally.total = r.violations.length := by
  have hall := countP_add_countP r.violations
  rw [Tally.total, h.error, h.warning]
  omega

/-! The exit code. -/

theorem le_foldl_weight_iff (violations : List Violation) (w n : Nat) :
    n ≤ violations.foldl (fun w v => max w v.severity.weight) w ↔
      n ≤ w ∨ ∃ v ∈ violations, n ≤ v.severity.weight := by
  induction violations generalizing w with
  | nil => simp
  | cons v violations ih =>
    have hmax : n ≤ max w v.severity.weight ↔ n ≤ w ∨ n ≤ v.severity.weight := by omega
    simp only [List.foldl_cons, ih, List.mem_cons, exists_eq_or_imp, hmax, or_assoc]

theorem error_le_worst_iff :
    Severity.weight .error ≤ r.worst ↔ ∃ v ∈ r.violations, v.severity = .error := by
  have hweight (s : Severity) : Severity.weight .error ≤ s.weight ↔ s = .error := by
    cases s <;> decide
  rw [worst, le_foldl_weight_iff]
  simp only [hweight]
  exact or_iff_right (by decide)

theorem worst_pos_iff : 0 < r.worst ↔ r.violations ≠ [] := by
  have hweight (s : Severity) : 0 < s.weight := by cases s <;> decide
  rw [worst, Nat.lt_iff_add_one_le, le_foldl_weight_iff]
  constructor
  · rintro (h | ⟨v, hv, -⟩)
    · cases h
    · exact List.ne_nil_of_mem hv
  · intro h
    exact .inr ⟨_, List.head_mem h, hweight _⟩

/-- There is an error of the run, or a violation that is one. -/
def Fails (r : Report) : Prop := r.errors ≠ [] ∨ ∃ v ∈ r.violations, v.severity = .error

theorem exitCode_of_fails (h : Fails r) (strict : Bool) : r.exitCode strict = 2 := by
  unfold exitCode
  rcases h with h | h
  · rw [if_pos (by simp [h])]
  · rw [if_pos (error_le_worst_iff.2 h), ite_self]

theorem exitCode_of_not_fails (h : ¬Fails r) (strict : Bool) :
    r.exitCode strict = if strict = true ∧ r.violations ≠ [] then 1 else 0 := by
  obtain ⟨herrors, hworst⟩ := not_or.1 h
  have hnone : r.errors = [] := Classical.not_not.1 herrors
  unfold exitCode
  rw [if_neg (by simp [hnone]), if_neg fun hle => hworst (error_le_worst_iff.1 hle)]
  simp only [Bool.and_eq_true, decide_eq_true_eq, worst_pos_iff]

theorem Counted.passed_iff (h : Counted r) : r.passed = true ↔ ¬Fails r := by
  unfold passed Fails
  rw [h.error, Bool.and_eq_true, decide_eq_true_eq, List.isEmpty_iff, Int.natCast_eq_zero,
    List.countP_eq_zero, And.comm]
  simp

/-- Whatever happens to a report, in whatever order: it lists the violations and errors that were
added, counts each severity and all violations as it lists them, and its verdict, its exit code and
its strict exit code tell the same story. -/
theorem run_accounts (events : List Event) :
    let r := run events
    r.violations = events.filterMap Event.violation? ∧
      r.errors = events.filterMap Event.error? ∧
      r.tally.error = r.violations.countP (·.severity = .error) ∧
      r.tally.warning = r.violations.countP (·.severity = .warning) ∧
      r.tally.total = r.violations.length ∧
      (r.passed = true ↔ r.exitCode false = 0) ∧
      (r.exitCode true = 0 ↔ r.passed = true ∧ r.violations = []) ∧
      (r.exitCode true = 1 ↔ r.passed = true ∧ r.violations ≠ []) ∧
      (r.exitCode true = 2 ↔ r.exitCode false = 2) := by
  intro r
  obtain ⟨hviolations, herrors⟩ := foldl_step_lists events {}
  have hcounted : Counted r := counted_run events
  refine ⟨hviolations, herrors, hcounted.error, hcounted.warning, hcounted.total, ?_⟩
  rw [hcounted.passed_iff]
  by_cases hfails : Fails r
  · simp [exitCode_of_fails hfails, hfails]
  · by_cases hnone : r.violations = []
    · simp [exitCode_of_not_fails hfails, hfails, hnone]
    · simp [exitCode_of_not_fails hfails, hfails, hnone]

/-- What one file of a run adds to its report. -/
def eventsOf (o : Outcome) : List Event :=
  o.corrections.map .correction ++ o.errors.map .error ++ o.violations.map .violation ++
    [.files 1]

/-- The report of a run over files is built up in this way. -/
theorem ofOutcomes_eq_run (outcomes : List Outcome) :
    ofOutcomes outcomes = run (outcomes.flatMap eventsOf) := by
  unfold ofOutcomes run
  rw [List.foldl_flatMap]
  congr 1
  funext r o
  simp only [eventsOf, List.foldl_append, List.foldl_map, List.foldl_cons, List.foldl_nil]
  rfl

end Report

end PatternLint
