import DeclLint.Rules.InternalApiBoundary
import DeclLint.Rules.MandatoryCall
import DeclLint.Rules.NonVoidMemoization
import DeclLint.Rules.ProducingState
import DeclLint.Rules.RequiredTag
import DeclLint.Rules.RestrictedOperator

/-!
# The built-in rules

The six rules as values of one type.
-/

namespace DeclLint

/-- A built-in rule. -/
inductive Builtin where
  /-- The rule `internal-api-boundary`. -/
  | internalApiBoundary (rule : InternalApiBoundary)
  /-- The rule `required-tag`. -/
  | requiredTag (rule : RequiredTag)
  /-- The rule `mandatory-call-under-skip`. -/
  | mandatoryCall (rule : MandatoryCall)
  /-- The rule `non-void-memoization`. -/
  | nonVoidMemoization (rule : NonVoidMemoization)
  /-- The rule `restricted-operator`. -/
  | restrictedOperator (rule : RestrictedOperator)
  /-- The rule `producing-state-assignment`. -/
  | producingState (rule : ProducingState)
deriving Repr

namespace Builtin

/-- The name of a rule. -/
def name : Builtin → String
  | internalApiBoundary rule => LintRule.name rule
  | requiredTag rule => LintRule.name rule
  | mandatoryCall rule => LintRule.name rule
  | nonVoidMemoization rule => LintRule.name rule
  | restrictedOperator rule => LintRule.name rule
  | producingState rule => LintRule.name rule

/-- The code of a rule's main finding. -/
def code : Builtin → String
  | internalApiBoundary rule => LintRule.code rule
  | requiredTag rule => LintRule.code rule
  | mandatoryCall rule => LintRule.code rule
  | nonVoidMemoization rule => LintRule.code rule
  | restrictedOperator rule => LintRule.code rule
  | producingState rule => LintRule.code rule

/-- What a rule is for. -/
def description : Builtin → String
  | internalApiBoundary rule => LintRule.description rule
  | requiredTag rule => LintRule.description rule
  | mandatoryCall rule => LintRule.description rule
  | nonVoidMemoization rule => LintRule.description rule
  | restrictedOperator rule => LintRule.description rule
  | producingState rule => LintRule.description rule

/-- The severity of a rule's findings. -/
def severity : Builtin → Severity
  | internalApiBoundary rule => rule.severity
  | requiredTag rule => rule.severity
  | mandatoryCall rule => rule.severity
  | nonVoidMemoization rule => rule.severity
  | restrictedOperator rule => rule.severity
  | producingState rule => rule.severity

/-- The kinds of nodes a rule wants to see. -/
def interests : Builtin → List NodeKind
  | internalApiBoundary rule => LintRule.interests rule
  | requiredTag rule => LintRule.interests rule
  | mandatoryCall rule => LintRule.interests rule
  | nonVoidMemoization rule => LintRule.interests rule
  | restrictedOperator rule => LintRule.interests rule
  | producingState rule => LintRule.interests rule

/-- Gives a rule another severity. -/
def withSeverity (severity : Severity) : Builtin → Builtin
  | internalApiBoundary rule => internalApiBoundary { rule with severity }
  | requiredTag rule => requiredTag { rule with severity }
  | mandatoryCall rule => mandatoryCall { rule with severity }
  | nonVoidMemoization rule => nonVoidMemoization { rule with severity }
  | restrictedOperator rule => restrictedOperator { rule with severity }
  | producingState rule => producingState { rule with severity }

/-- Takes the options of a section. -/
def configure (settings : RuleSettings) : Builtin → Configured Builtin
  | internalApiBoundary rule => (LintRule.configure settings rule).map internalApiBoundary
  | requiredTag rule => (LintRule.configure settings rule).map requiredTag
  | mandatoryCall rule => (LintRule.configure settings rule).map mandatoryCall
  | nonVoidMemoization rule => (LintRule.configure settings rule).map nonVoidMemoization
  | restrictedOperator rule => (LintRule.configure settings rule).map restrictedOperator
  | producingState rule => (LintRule.configure settings rule).map producingState

/-- What a rule has to say about a node. -/
def check : Builtin → UnitContext → Node → List Violation
  | internalApiBoundary rule => LintRule.check rule
  | requiredTag rule => LintRule.check rule
  | mandatoryCall rule => LintRule.check rule
  | nonVoidMemoization rule => LintRule.check rule
  | restrictedOperator rule => LintRule.check rule
  | producingState rule => LintRule.check rule

/-- Whether looking at a node breaks off. -/
def overflows : Builtin → UnitContext → Node → Bool
  | internalApiBoundary rule => LintRule.overflows rule
  | requiredTag rule => LintRule.overflows rule
  | mandatoryCall rule => LintRule.overflows rule
  | nonVoidMemoization rule => LintRule.overflows rule
  | restrictedOperator rule => LintRule.overflows rule
  | producingState rule => LintRule.overflows rule

instance : LintRule Builtin where
  name := name
  code := code
  description := description
  severity := severity
  interests := interests
  configure := configure
  check := check
  overflows := overflows

end Builtin

end DeclLint
