/-!
# Severities

The three levels of a finding, in ascending order.
-/

namespace DeclLint

/-- How serious a finding is. -/
inductive Severity where
  /-- worth knowing -/
  | info
  /-- should be looked at -/
  | warning
  /-- has to be fixed -/
  | error
deriving DecidableEq, Repr, Inhabited

namespace Severity

/-- The place of a severity in the order. -/
def rank : Severity → Nat
  | info => 0
  | warning => 1
  | error => 2

/-- The word for a severity. -/
def display : Severity → String
  | info => "info"
  | warning => "warning"
  | error => "error"

/-- The severity a word stands for. -/
def ofName? : String → Option Severity
  | "info" => some info
  | "warning" => some warning
  | "error" => some error
  | _ => none

/-- The order of severities. -/
def cmp (a b : Severity) : Ordering := compare a.rank b.rank

/-- Whether a severity reaches a threshold. -/
def reaches (severity threshold : Severity) : Bool := threshold.rank ≤ severity.rank

end Severity

end DeclLint
