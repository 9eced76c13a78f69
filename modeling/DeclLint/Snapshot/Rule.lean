import DeclLint.Rules.Builtin
import DeclLint.Snapshot.Finding

/-!
# Snapshots of rules

What a rule says of itself, and the names and the severity it is set up with.
-/

namespace DeclLint

/-- What a rule says of itself. -/
def LintRule.toJson {ρ : Type} [LintRule ρ] (rule : ρ) : Json := .object [
  ("name", .string (LintRule.name rule)),
  ("code", .string (LintRule.code rule)),
  ("description", .string (LintRule.description rule)),
  ("default_severity", (LintRule.severity rule).toJson),
  ("interests", .ofList (fun kind => .string kind.word) (LintRule.interests rule))]

/-- The snapshot of what a built-in rule is set up with. -/
def Builtin.toJson : Builtin → Json
  | .internalApiBoundary rule => .object [
    ("severity", rule.severity.toJson),
    ("marker", .string rule.marker),
    ("injection", .string rule.injection),
    ("restricted_module", .string rule.restrictedModule.text)]
  | .requiredTag rule => .object [
    ("severity", rule.severity.toJson),
    ("remote_operations", .ofList .string rule.remoteOperations),
    ("tag_marker", .string rule.tagMarker),
    ("tag_base", .string rule.tagBase),
    ("parameter_name", .string rule.parameterName)]
  | .mandatoryCall rule => .object [
    ("severity", rule.severity.toJson),
    ("base", .string rule.base),
    ("preconditions", .string rule.preconditions),
    ("sentinel", .string rule.sentinel),
    ("method", .string rule.method)]
  | .nonVoidMemoization rule => .object [
    ("severity", rule.severity.toJson),
    ("function", .string rule.function.display),
    ("void_types", .ofList .string rule.voidTypes)]
  | .restrictedOperator rule => .object [
    ("severity", rule.severity.toJson),
    ("gate", .string rule.gate.display),
    ("block_parameter", .string rule.blockParameter),
    ("stream", .string rule.stream)]
  | .producingState rule => .object [
    ("severity", rule.severity.toJson),
    ("function", .string rule.function.display),
    ("producer_parameter", .string rule.producerParameter),
    ("scope", .string rule.scope),
    ("mutable_state", .string rule.mutableState),
    ("property", .string rule.property)]

end DeclLint
