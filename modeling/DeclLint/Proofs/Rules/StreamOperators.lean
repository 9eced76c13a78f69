import DeclLint.Proofs.Code.Search
import DeclLint.Proofs.Symbol.Binding
import DeclLint.Rules.RestrictedOperator

/-!
# The first stream operator in the restricted scope

A call of the gate function is reported exactly when a stream operator stands at some place of its
block, however deep. There is one finding, and it is about the first operator in the order of the
source (`RestrictedOperator.check_reports_first_operator`): what a call is made on comes before the
call, and the call before its arguments. So in a chain of operators it is the innermost one.
-/

namespace DeclLint

namespace RestrictedOperator

variable {rule : RestrictedOperator} {context : UnitContext}

/-- A call on a stream that resolves to a member that returns a stream or extends exactly the stream
type. -/
structure Operates (rule : RestrictedOperator) (oracle : Oracle) (call : Call) : Prop where
  /-- the call is made on a stream -/
  receiver : ∃ type, call.receiverType = some type ∧ oracle.isSubtypeOf type rule.stream = true
  /-- what the call resolves to yields a stream -/
  target : ∃ target, oracle.resolveCall call = some target ∧
    ((∃ type, target.member.declaredType = some type ∧
        oracle.isSubtypeOf type rule.stream = true) ∨
      ∃ type, target.member.receiver = some type ∧ type.target = some rule.stream)

theorem yieldsStream_iff {member : Member} :
    rule.yieldsStream context member = true ↔
      (∃ type, member.declaredType = some type ∧
        context.oracle.isSubtypeOf type rule.stream = true) ∨
      ∃ type, member.receiver = some type ∧ type.target = some rule.stream := by
  rw [yieldsStream, Bool.or_eq_true, Option.any_eq_true, Option.any_eq_true]
  simp only [TypeRef.isNamed, beq_iff_eq]

/-- The test of the rule is the notion of a stream operator, with its three types. -/
theorem isStreamOperator_iff {call : Call} :
    rule.isStreamOperator context call = true ↔ rule.Operates context.oracle call := by
  rw [isStreamOperator, Bool.and_eq_true, Option.any_eq_true, Option.any_eq_true]
  simp only [yieldsStream_iff]
  constructor
  · rintro ⟨hreceiver, htarget⟩
    exact ⟨hreceiver, htarget⟩
  · rintro ⟨hreceiver, htarget⟩
    exact ⟨hreceiver, htarget⟩

/-- **The search finds the first operator**, in the order of the source, where a receiver stands
before what is called on it. -/
theorem firstOperator?_eq_some_iff {expr : Expr} {operator : Call} :
    rule.firstOperator? context expr = some operator ↔
      ∃ place, IsFirst expr.callAt? (rule.Operates context.oracle) place operator := by
  rw [firstOperator?, Expr.walkCalls_search_eq_some_iff]
  simp only [isStreamOperator_iff]

theorem firstOperator?_isSome_iff {expr : Expr} :
    (rule.firstOperator? context expr).isSome ↔
      ∃ place operator, expr.callAt? place = some operator ∧
        rule.Operates context.oracle operator := by
  rw [firstOperator?, Expr.walkCalls_search_isSome_iff]
  simp only [isStreamOperator_iff]

/-- What is checked is the block that a call passes to the gate. Other calls, and other arguments of
this one, are passed over. -/
theorem checkCall_eq (call : Call) :
    rule.checkCall context call =
      (call.passed? context.oracle rule.gate rule.blockParameter).elim [] fun block =>
        ((rule.firstOperator? context block.value).map (rule.forbidden context)).toList :=
  (call.elim_passed? context.oracle rule.gate rule.blockParameter _).symm

theorem checkCall_of_passes {call : Call} {block : Argument}
    (h : call.Passes context.oracle rule.gate rule.blockParameter block) :
    rule.checkCall context call =
      ((rule.firstOperator? context block.value).map (rule.forbidden context)).toList := by
  rw [checkCall_eq, Call.passed?_eq_some_iff.2 h]
  rfl

/-- **A finding is about the first operator** in the block that the call passes to the gate. There
is no second finding about the same block. -/
theorem exists_isFirst_of_checkCall_ne_nil {call : Call} (h : rule.checkCall context call ≠ []) :
    ∃ block, call.Passes context.oracle rule.gate rule.blockParameter block ∧
      ∃ place operator, IsFirst block.value.callAt? (rule.Operates context.oracle) place operator ∧
        rule.checkCall context call = [rule.forbidden context operator] := by
  rcases hpassed : call.passed? context.oracle rule.gate rule.blockParameter with _ | block
  · rw [checkCall_eq, hpassed] at h
    exact absurd rfl h
  · have hblock := Call.passed?_eq_some_iff.1 hpassed
    rcases hfirst : rule.firstOperator? context block.value with _ | operator
    · rw [checkCall_of_passes hblock, hfirst] at h
      exact absurd rfl h
    · obtain ⟨place, hplace⟩ := firstOperator?_eq_some_iff.1 hfirst
      refine ⟨block, hblock, place, operator, hplace, ?_⟩
      rw [checkCall_of_passes hblock, hfirst]
      rfl

/-- **A call is reported** exactly if it is written by the gate's name, goes to the gate and has an
argument bound to the block parameter, and a stream operator stands at some place of the first such
argument. Then there is one finding, about the operator that stands before all others. -/
theorem check_reports_first_operator (rule : RestrictedOperator) (context : UnitContext)
    (owner : Declaration) (call : Call) :
    (LintRule.check rule context (.call owner call) ≠ [] ↔
      ∃ block, call.Passes context.oracle rule.gate rule.blockParameter block ∧
        ∃ place operator, block.value.callAt? place = some operator ∧
          rule.Operates context.oracle operator) ∧
    (LintRule.check rule context (.call owner call) ≠ [] →
      ∃ block, call.Passes context.oracle rule.gate rule.blockParameter block ∧
        ∃ place operator,
          IsFirst block.value.callAt? (rule.Operates context.oracle) place operator ∧
          LintRule.check rule context (.call owner call) = [
            { code := "PL007"
              rule := "restricted-operator"
              severity := rule.severity
              location := context.location [operator.reportRange]
              message := simpleName rule.stream ++ " operator `" ++ operator.name ++
                "` must not be invoked within `" ++ rule.gate.name ++ " \x7b \x7d`" }]) := by
  change (rule.checkCall context call ≠ [] ↔ _) ∧ (rule.checkCall context call ≠ [] → _)
  refine ⟨⟨fun h => ?_, ?_⟩, fun h => exists_isFirst_of_checkCall_ne_nil h⟩
  · obtain ⟨block, hblock, place, operator, hfirst, -⟩ := exists_isFirst_of_checkCall_ne_nil h
    exact ⟨block, hblock, place, operator, hfirst.holds, hfirst.passes⟩
  · rintro ⟨block, hblock, hoperator⟩
    obtain ⟨operator, hfirst⟩ := Option.isSome_iff_exists.1 (firstOperator?_isSome_iff.2 hoperator)
    rw [checkCall_of_passes hblock, hfirst]
    exact List.cons_ne_nil _ _

end RestrictedOperator

end DeclLint
