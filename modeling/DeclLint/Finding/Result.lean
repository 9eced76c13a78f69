import DeclLint.Finding.Violation

/-!
# Results of a pass

A `LintResult` holds the violations of a pass over some units, with counts and a report.
-/

namespace DeclLint

/-- What a pass found. -/
structure LintResult where
  /-- the violations -/
  violations : List Violation := []
  /-- the number of units checked -/
  unitsChecked : Nat := 0
deriving BEq, Repr, Inhabited

namespace LintResult

/-- The number of violations of a severity. -/
def count (result : LintResult) (severity : Severity) : Nat :=
  result.violations.countP (·.severity == severity)

/-- Whether some violation is an error. -/
def hasErrors (result : LintResult) : Bool := result.violations.any (·.severity == .error)

/-- Whether some violation reaches a threshold. -/
def hasViolationsAt (result : LintResult) (threshold : Severity) : Bool :=
  result.violations.any (·.severity.reaches threshold)

/-- The violations with a code. -/
def byCode (result : LintResult) (code : String) : List Violation :=
  result.violations.filter (·.code == code)

/-- The violations that reach a threshold, each on a few lines, and the totals of all. -/
def report (result : LintResult) (threshold : Severity) : String :=
  let failing := result.violations.filter (·.severity.reaches threshold)
  s!"\n=== platform-lint: {failing.length} violation(s) ===\n\n" ++
    String.join (failing.map fun violation => violation.format ++ "\n") ++
    s!"Total: {result.count .error} error(s), {result.count .warning} warning(s), " ++
    s!"{result.count .info} info(s) in {result.unitsChecked} unit(s)\n"

end LintResult

end DeclLint
