import DeclLint.Rules.Builtin

/-!
# Rules sign their findings

A finding of a built-in rule bears the rule's name, one of the rule's codes and the rule's severity,
and lies in the unit the rule was shown (`Builtin.signed_of_mem_check`). Only two of the rules offer
fixes; the findings of the others are `Verbal`. No two rules share a code, so the code of a finding
tells the rule (`Builtin.ruleOfCode?`).
-/

namespace DeclLint

/-- What all findings of a rule have in common. -/
structure Signed (context : UnitContext) (name : String) (codes : List String) (severity : Severity)
    (violation : Violation) : Prop where
  /-- the code is one of the rule's -/
  code : violation.code ∈ codes
  /-- the name is that of the rule -/
  rule : violation.rule = name
  /-- the severity is that of the rule -/
  severity : violation.severity = severity
  /-- the place lies in the unit -/
  place : ∃ ranges, violation.location = context.location ranges

namespace Signed

variable {context : UnitContext} {name code : String} {codes : List String} {severity : Severity}
  {violation : Violation}

/-- A finding is signed when it is made: the context puts in the place, the rule its name and
severity. -/
theorem of_violation (hcode : code ∈ codes) (ranges : List (Option Range)) (message : String) :
    Signed context name codes severity (context.violation code name severity ranges message) :=
  ⟨hcode, rfl, rfl, ranges, rfl⟩

theorem withSuggestion (h : Signed context name codes severity violation)
    (suggestion : Suggestion) :
    Signed context name codes severity (violation.withSuggestion suggestion) :=
  ⟨h.code, h.rule, h.severity, h.place⟩

/-- **Nothing that is added to a finding touches its signature**: not a fix, nor a suggestion or
labels. -/
theorem withFix (h : Signed context name codes severity violation) (fix : Option Fix) :
    Signed context name codes severity (violation.withFix fix) := by
  cases fix with
  | none => exact h
  | some fix => exact h.withSuggestion (.ofFix fix)

theorem withLabels (h : Signed context name codes severity violation) (labels : List Label) :
    Signed context name codes severity { violation with labels } :=
  ⟨h.code, h.rule, h.severity, h.place⟩

end Signed

/-- A finding that offers no fix, though it may give advice in words. -/
structure Verbal (context : UnitContext) (name : String) (codes : List String) (severity : Severity)
    (violation : Violation) : Prop extends Signed context name codes severity violation where
  /-- there is no fix -/
  fix : violation.fix? = none

namespace Verbal

variable {context : UnitContext} {name code : String} {codes : List String} {severity : Severity}
  {violation : Violation}

/-- A finding that comes with words only offers no fix to begin with. -/
theorem of_violation (hcode : code ∈ codes) (ranges : List (Option Range)) (message : String) :
    Verbal context name codes severity (context.violation code name severity ranges message) :=
  ⟨.of_violation hcode ranges message, rfl⟩

/-- Advice in words leaves it at that. -/
theorem withAdvice (h : Verbal context name codes severity violation) (message : String) :
    Verbal context name codes severity (violation.withSuggestion { message }) :=
  ⟨h.toSigned.withSuggestion _, rfl⟩

end Verbal

@[simp] theorem Violation.code_withFix (violation : Violation) (fix : Option Fix) :
    (violation.withFix fix).code = violation.code := by
  cases fix <;> rfl

/-! ### Rule by rule -/

namespace InternalApiBoundary

/-- The codes of the rule's findings. -/
def codes : List String := [code, usageCode]

variable {rule : InternalApiBoundary} {context : UnitContext} {violation : Violation}

theorem verbal_of_checkMarked {declaration : Declaration}
    (h : rule.checkMarked context declaration = some violation) :
    Verbal context name codes rule.severity violation := by
  obtain ⟨use, -, rfl⟩ := Option.map_eq_some_iff.1 h
  exact .of_violation (by simp [codes]) _ _

theorem verbal_of_checkUsage {type : TypeRef} {fallback : Option Range}
    (h : rule.checkUsage context type fallback = some violation) :
    Verbal context name codes rule.severity violation := by
  obtain ⟨target, -, h⟩ := Option.bind_eq_some_iff.1 h
  split at h
  · obtain rfl := Option.some.inj h
    have hcode : usageCode ∈ codes := by simp [codes]
    exact (Verbal.of_violation hcode _ _).withAdvice _
  · cases h

theorem verbal_of_checkMember {member : Member} (h : violation ∈ rule.checkMember context member) :
    Verbal context name codes rule.severity violation := by
  rw [checkMember] at h
  split at h
  · cases h
  · split at h
    · split at h
      · exact verbal_of_checkUsage (Option.mem_toList.1 h)
      · cases h
    · obtain ⟨parameter, -, h⟩ := List.mem_filterMap.1 h
      exact verbal_of_checkUsage h
    · cases h
    · cases h

/-- Whatever the rule about internal APIs finds, about markers as about uses, it signs, and it
offers no fix. -/
theorem verbal_of_mem_check {node : Node} (h : violation ∈ LintRule.check rule context node) :
    Verbal context name codes rule.severity violation := by
  cases node with
  | declaration declaration =>
    change violation ∈ rule.checkDeclaration context declaration at h
    rw [checkDeclaration] at h
    split at h
    · cases h
    · rcases List.mem_append.1 h with h | h
      · exact verbal_of_checkMarked (Option.mem_toList.1 h)
      · obtain ⟨member, -, h⟩ := List.mem_flatMap.1 h
        exact verbal_of_checkMember h
  | method | call => cases h

end InternalApiBoundary

namespace RequiredTag

/-- The codes of the rule's findings. -/
def codes : List String := [code, wrongTypeCode]

variable {rule : RequiredTag} {context : UnitContext} {violation : Violation}

@[simp] theorem code_missingTag (member : Member) : (rule.missingTag context member).code = code :=
  Violation.code_withFix _ _

@[simp] theorem code_wrongTag (parameter : Parameter) :
    (rule.wrongTag context parameter).code = wrongTypeCode :=
  Violation.code_withFix _ _

/-- The rule about tags signs both of its findings, the one about a missing tag and the one about a
tag of the wrong type. -/
theorem signed_of_mem_check {node : Node} (h : violation ∈ LintRule.check rule context node) :
    Signed context name codes rule.severity violation := by
  cases node with
  | method owner member =>
    change violation ∈ rule.checkMethod context member at h
    rw [checkMethod] at h
    split at h
    · cases h
    · split at h
      · obtain ⟨parameter, -, rfl⟩ := List.mem_map.1 h
        exact (Signed.of_violation (by simp [codes]) _ _).withFix _
      · rw [List.mem_singleton.1 h]
        exact (Signed.of_violation (by simp [codes]) _ _).withFix _
  | declaration | call => cases h

end RequiredTag

namespace MandatoryCall

/-- The codes of the rule's findings. -/
def codes : List String := [code]

variable {rule : MandatoryCall} {context : UnitContext} {violation : Violation}

/-- The rule about mandatory calls signs its finding, labels and fix included. -/
theorem signed_of_mem_check {node : Node} (h : violation ∈ LintRule.check rule context node) :
    Signed context name codes rule.severity violation := by
  cases node with
  | declaration declaration =>
    change violation ∈ rule.checkDeclaration context declaration at h
    rw [checkDeclaration] at h
    split at h
    · cases h
    · split at h
      · cases h
      · split at h
        · cases h
        · rw [List.mem_singleton.1 h]
          exact ((Signed.of_violation (by simp [codes]) _ _).withFix _).withLabels _
  | method | call => cases h

end MandatoryCall

namespace NonVoidMemoization

/-- The codes of the rule's findings. -/
def codes : List String := [code]

variable {rule : NonVoidMemoization} {context : UnitContext} {violation : Violation}

theorem verbal_of_mem_check {node : Node} (h : violation ∈ LintRule.check rule context node) :
    Verbal context name codes rule.severity violation := by
  cases node with
  | call owner call =>
    change violation ∈ rule.checkCall context call at h
    rw [checkCall] at h
    split at h
    · cases h
    · split at h
      · cases h
      · split at h
        · rw [List.mem_singleton.1 h]
          exact .of_violation (by simp [codes]) _ _
        · cases h
  | declaration | method => cases h

end NonVoidMemoization

namespace RestrictedOperator

/-- The codes of the rule's findings. -/
def codes : List String := [code]

variable {rule : RestrictedOperator} {context : UnitContext} {violation : Violation}

theorem verbal_of_mem_check {node : Node} (h : violation ∈ LintRule.check rule context node) :
    Verbal context name codes rule.severity violation := by
  cases node with
  | call owner call =>
    change violation ∈ rule.checkCall context call at h
    rw [checkCall] at h
    split at h
    · cases h
    · split at h
      · cases h
      · split at h
        · cases h
        · obtain ⟨operator, -, rfl⟩ := Option.map_eq_some_iff.1 (Option.mem_toList.1 h)
          exact .of_violation (by simp [codes]) _ _
  | declaration | method => cases h

end RestrictedOperator

namespace ProducingState

/-- The codes of the rule's findings. -/
def codes : List String := [code]

variable {rule : ProducingState} {context : UnitContext} {violation : Violation}

theorem verbal_of_mem_check {node : Node} (h : violation ∈ LintRule.check rule context node) :
    Verbal context name codes rule.severity violation := by
  cases node with
  | call owner call =>
    change violation ∈ rule.checkCall context call at h
    rw [checkCall] at h
    split at h
    · cases h
    · split at h
      · cases h
      · split at h
        · cases h
        · split at h
          · cases h
          · rw [List.mem_singleton.1 h]
            exact .of_violation (by simp [codes]) _ _
  | declaration | method => cases h

end ProducingState

/-! ### All rules -/

namespace Builtin

/-- The codes of a rule's findings. -/
def codes : Builtin → List String
  | internalApiBoundary _ => InternalApiBoundary.codes
  | requiredTag _ => RequiredTag.codes
  | mandatoryCall _ => MandatoryCall.codes
  | nonVoidMemoization _ => NonVoidMemoization.codes
  | restrictedOperator _ => RestrictedOperator.codes
  | producingState _ => ProducingState.codes

/-- **A rule signs its findings**: with its name, one of its codes, its severity, and a place in the
file of the unit. -/
theorem signed_of_mem_check {rule : Builtin} {context : UnitContext} {node : Node}
    {violation : Violation} (h : violation ∈ rule.check context node) :
    Signed context rule.name rule.codes rule.severity violation := by
  cases rule with
  | internalApiBoundary rule => exact (InternalApiBoundary.verbal_of_mem_check h).toSigned
  | requiredTag rule => exact RequiredTag.signed_of_mem_check h
  | mandatoryCall rule => exact MandatoryCall.signed_of_mem_check h
  | nonVoidMemoization rule => exact (NonVoidMemoization.verbal_of_mem_check h).toSigned
  | restrictedOperator rule => exact (RestrictedOperator.verbal_of_mem_check h).toSigned
  | producingState rule => exact (ProducingState.verbal_of_mem_check h).toSigned

/-- The name of the rule that makes findings with a code. -/
def ruleOfCode? : String → Option String
  | "PL001" | "PL002" => some InternalApiBoundary.name
  | "PL003" | "PL004" => some RequiredTag.name
  | "PL005" => some MandatoryCall.name
  | "PL006" => some NonVoidMemoization.name
  | "PL007" => some RestrictedOperator.name
  | "PL008" => some ProducingState.name
  | _ => none

/-- **A code belongs to one rule**, so that the rule of a finding is known from the code. -/
theorem ruleOfCode?_of_mem_codes {rule : Builtin} {code : String} (h : code ∈ rule.codes) :
    ruleOfCode? code = some rule.name := by
  cases rule with
  | internalApiBoundary =>
    have hall : ∀ c ∈ InternalApiBoundary.codes, ruleOfCode? c = InternalApiBoundary.name := by
      decide
    exact hall code h
  | requiredTag =>
    have hall : ∀ c ∈ RequiredTag.codes, ruleOfCode? c = RequiredTag.name := by decide
    exact hall code h
  | mandatoryCall =>
    have hall : ∀ c ∈ MandatoryCall.codes, ruleOfCode? c = MandatoryCall.name := by decide
    exact hall code h
  | nonVoidMemoization =>
    have hall : ∀ c ∈ NonVoidMemoization.codes, ruleOfCode? c = NonVoidMemoization.name := by decide
    exact hall code h
  | restrictedOperator =>
    have hall : ∀ c ∈ RestrictedOperator.codes, ruleOfCode? c = RestrictedOperator.name := by decide
    exact hall code h
  | producingState =>
    have hall : ∀ c ∈ ProducingState.codes, ruleOfCode? c = ProducingState.name := by decide
    exact hall code h

end Builtin

end DeclLint
