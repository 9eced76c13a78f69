import DeclLint.Proofs.Code.Search
import DeclLint.Proofs.Symbol.Binding
import DeclLint.Rules.ProducingState
import DeclLint.Symbol.Table

/-!
# Producers that assign nothing

A call that passes a producer to the designated function is reported exactly when no part of the
producer, however deep, assigns the property or hands the scope on
(`ProducingState.check_reports_idle_producer`). What satisfies the rule in a part of a producer
satisfies it in the whole.

The call has to be written by the function's name. A call under another name is passed over,
whatever it goes to and passes (`ProducingState.check_of_name_ne`).
-/

namespace DeclLint

namespace ProducingState

variable {rule : ProducingState} {context : UnitContext}

/-- What an expression does that satisfies the rule. -/
inductive Serves (rule : ProducingState) (oracle : Oracle) : Expr → Prop
  /-- it assigns the property of a mutable state -/
  | assigns {member : MemberRef} {type : Option TypeRef} {place : Option Range} {value : Expr}
      {range : Option Range}
      (howner : oracle.isSubtypeOf (.resolved member.owner) rule.mutableState = true) :
      Serves rule oracle (.assign (.reference rule.property (some member) type place) value range)
  /-- it calls a member that takes the scope or exactly a mutable state, or extends one of them -/
  | handsOn {call : Call} {target : ResolvedMember} {type : TypeRef}
      (htarget : oracle.resolveCall call = some target)
      (htype : (∃ parameter ∈ target.member.parameters, parameter.typeRef = type) ∨
        target.member.receiver = some type)
      (htakes : oracle.isSubtypeOf type rule.scope = true ∨ type.target = some rule.mutableState) :
      Serves rule oracle (.call call)

/-- To assign the property of a mutable state is one way to satisfy the rule. Which state it is, is
not looked at. -/
theorem serves_of_assignsProperty {expr : Expr} (h : rule.assignsProperty context expr = true) :
    rule.Serves context.oracle expr := by
  unfold assignsProperty at h
  split at h
  · rw [Bool.and_eq_true, beq_iff_eq, Option.any_eq_true] at h
    obtain ⟨rfl, member, rfl, howner⟩ := h
    exact .assigns howner
  · cases h

/-- What a scope may be handed on to: something of the type of scopes or below, or of the mutable
state by its very name. -/
theorem takesScope_iff {type : TypeRef} :
    rule.takesScope context type = true ↔
      context.oracle.isSubtypeOf type rule.scope = true ∨ type.target = some rule.mutableState := by
  rw [takesScope, Bool.or_eq_true, TypeRef.isNamed, beq_iff_eq]

/-- To hand the scope on is the other way, as the function that gets it may assign the property. -/
theorem serves_of_passesScope {expr : Expr} (h : rule.passesScope context expr = true) :
    rule.Serves context.oracle expr := by
  unfold passesScope at h
  split at h
  · rw [Option.any_eq_true] at h
    obtain ⟨target, htarget, h⟩ := h
    rw [Bool.or_eq_true, List.any_eq_true, Option.any_eq_true] at h
    rcases h with ⟨parameter, hparameter, htakes⟩ | ⟨type, htype, htakes⟩
    · exact .handsOn htarget (.inl ⟨parameter, hparameter, rfl⟩) (takesScope_iff.1 htakes)
    · exact .handsOn htarget (.inr htype) (takesScope_iff.1 htakes)
  · cases h

/-- The two tests of the rule are the two ways to satisfy it. -/
theorem serves_iff {expr : Expr} :
    (rule.assignsProperty context expr || rule.passesScope context expr) = true ↔
      rule.Serves context.oracle expr := by
  rw [Bool.or_eq_true]
  constructor
  · rintro (h | h)
    · exact serves_of_assignsProperty h
    · exact serves_of_passesScope h
  · intro h
    cases h with
    | assigns howner =>
      left
      rw [assignsProperty, Option.any_some, howner, beq_self_eq_true]
      rfl
    | handsOn htarget htype htakes =>
      right
      rw [passesScope, htarget, Option.any_some, Bool.or_eq_true, List.any_eq_true,
        Option.any_eq_true]
      rcases htype with ⟨parameter, hparameter, rfl⟩ | htype
      · exact .inl ⟨parameter, hparameter, takesScope_iff.2 htakes⟩
      · exact .inr ⟨_, htype, takesScope_iff.2 htakes⟩

/-- **The search looks at every part of a producer**, including lambdas and calls inside of it. -/
theorem isSatisfied_iff {producer : Expr} :
    rule.isSatisfied context producer = true ↔
      ∃ place part, producer.at? place = some part ∧ rule.Serves context.oracle part := by
  rw [isSatisfied, beq_iff_eq, Expr.walk_search_halts_iff]
  simp only [serves_iff]

/-- **A producer within a larger one** satisfies the rule there too, for its places are places of
the larger one. -/
theorem isSatisfied_of_at? {larger producer : Expr} {place : Place}
    (hplace : larger.at? place = some producer) (h : rule.isSatisfied context producer = true) :
    rule.isSatisfied context larger = true := by
  obtain ⟨inner, part, hpart, hserves⟩ := isSatisfied_iff.1 h
  refine isSatisfied_iff.2 ⟨place ++ inner, part, ?_, hserves⟩
  rw [Expr.at?_append, hplace]
  exact hpart

/-- **A lambda without statements does nothing.** Its only place is the lambda itself, which is
neither an assignment nor a call. -/
theorem not_serves_of_empty_lambda {oracle : Oracle} {type : Option TypeRef} {range : Option Range}
    {place : Place} {part : Expr} (h : (Expr.lambda [] type range).at? place = some part) :
    ¬ rule.Serves oracle part := by
  obtain rfl : part = .lambda [] type range :=
    List.mem_singleton.1 (Expr.mem_subterms_iff.2 ⟨place, h⟩)
  intro hserves
  cases hserves

/-- What is checked is the producer that a call passes to the function. The finding is about the
call, not about the producer. -/
theorem checkCall_eq (call : Call) :
    rule.checkCall context call =
      (call.passed? context.oracle rule.function rule.producerParameter).elim [] fun producer =>
        if rule.isSatisfied context producer.value then []
        else [context.violation code name rule.severity [call.reportRange]
          ("`" ++ rule.function.name ++ "` calls should assign `" ++ rule.property ++
            "` inside the " ++ rule.producerParameter ++ " lambda")] :=
  (call.elim_passed? context.oracle rule.function rule.producerParameter _).symm

theorem check_of_passes {owner : Declaration} {call : Call} {producer : Argument}
    (h : call.Passes context.oracle rule.function rule.producerParameter producer) :
    LintRule.check rule context (.call owner call) =
      if rule.isSatisfied context producer.value then []
      else [context.violation code name rule.severity [call.reportRange]
        ("`" ++ rule.function.name ++ "` calls should assign `" ++ rule.property ++
          "` inside the " ++ rule.producerParameter ++ " lambda")] := by
  change rule.checkCall context call = _
  rw [checkCall_eq, Call.passed?_eq_some_iff.2 h]
  rfl

/-- **A call under another name is passed over**, whatever it goes to and passes. -/
theorem check_of_name_ne (owner : Declaration) {call : Call} (h : call.name ≠ rule.function.name) :
    LintRule.check rule context (.call owner call) = [] := by
  change rule.checkCall context call = []
  rw [checkCall, if_pos (bne_iff_ne.2 h)]

/-- The rule is silent about a call exactly if it is satisfied with the producer. -/
theorem check_eq_nil_iff {owner : Declaration} {call : Call} {producer : Argument}
    (h : call.Passes context.oracle rule.function rule.producerParameter producer) :
    LintRule.check rule context (.call owner call) = [] ↔
      rule.isSatisfied context producer.value = true := by
  rw [check_of_passes h]
  split
  · next hsatisfied => exact iff_of_true rfl hsatisfied
  · next hidle => exact iff_of_false (List.cons_ne_nil _ _) hidle

/-- **Idle producers are reported.** A call that is written by the function's name, goes to the
function and passes a producer is reported exactly if nothing that stands at a place of the producer
assigns the property or hands the scope on. So a producer that satisfies the rule still does as a
part of a larger one. A call under another name is never reported. -/
theorem check_reports_idle_producer (rule : ProducingState) (context : UnitContext)
    (owner : Declaration) {call : Call} {producer : Argument}
    (h : call.Passes context.oracle rule.function rule.producerParameter producer) :
    (LintRule.check rule context (.call owner call) = [
        { code := "PL008"
          rule := "producing-state-assignment"
          severity := rule.severity
          location := context.location [call.reportRange]
          message := "`" ++ rule.function.name ++ "` calls should assign `" ++ rule.property ++
            "` inside the " ++ rule.producerParameter ++ " lambda" }] ↔
      ∀ place part, producer.value.at? place = some part → ¬ rule.Serves context.oracle part) ∧
    (LintRule.check rule context (.call owner call) = [] ↔
      ∃ place part, producer.value.at? place = some part ∧ rule.Serves context.oracle part) ∧
    (∀ (owner' : Declaration) (call' : Call) (larger : Argument),
      call'.Passes context.oracle rule.function rule.producerParameter larger →
      (∃ place, larger.value.at? place = some producer.value) →
      LintRule.check rule context (.call owner call) = [] →
      LintRule.check rule context (.call owner' call') = []) ∧
    ∀ (owner' : Declaration) (call' : Call), call'.name ≠ rule.function.name →
      LintRule.check rule context (.call owner' call') = [] := by
  refine ⟨?_, (check_eq_nil_iff h).trans isSatisfied_iff, ?_,
    fun owner' _ => check_of_name_ne owner'⟩
  · rw [check_of_passes h]
    split
    · next hsatisfied =>
      obtain ⟨place, part, hplace, hserves⟩ := isSatisfied_iff.1 hsatisfied
      exact iff_of_false (List.cons_ne_nil _ _).symm fun hnone => hnone place part hplace hserves
    · next hidle =>
      refine iff_of_true rfl fun place part hplace hserves => ?_
      exact hidle (isSatisfied_iff.2 ⟨place, part, hplace, hserves⟩)
  · rintro owner' call' larger hlarger ⟨place, hplace⟩ hnil
    exact (check_eq_nil_iff hlarger).2 (isSatisfied_of_at? hplace ((check_eq_nil_iff h).1 hnil))

/-- One producer does nothing, the other assigns the property inside what an unknown function is
called on. -/
theorem check_idle_and_nested_assignment :
    let rule : ProducingState := { function := ⟨"runtime", "producing"⟩, mutableState := "State" }
    let producing := (Member.method "producing").addParameter
      { name := "producer", typeRef := .resolved "Function" }
    let table := SymbolTable.empty.insert
      ((Declaration.ofName "runtime.StateKt" .facade).addMember producing)
    let context : UnitContext := ⟨{ path := ⟨"Screen.kt"⟩ }, table.oracle⟩
    let owner := Declaration.ofName "ScreenKt" .facade
    let call (statements : List Expr) : Call :=
      { name := "producing"
        target := some ⟨"runtime.StateKt", "producing", 0⟩
        arguments := [{ value := .lambda statements none none, parameter := some 0 }] }
    let assignment : Expr :=
      .assign (.reference "value" (some ⟨"State", "value", 0⟩) none none)
        (.literal "1" none none) none
    let nested : Expr := .call { name := "also", receiver := some (.other [assignment] none none) }
    (LintRule.check rule context (.call owner (call []))).map (·.code) = ["PL008"] ∧
      LintRule.check rule context (.call owner (call [nested])) = [] := by
  intro rule producing table context owner call assignment nested
  have hpasses : ∀ statements, (call statements).Passes context.oracle rule.function
      rule.producerParameter { value := .lambda statements none none, parameter := some 0 } := by
    intro statements
    have hbound : Argument.BoundTo { value := .lambda statements none none, parameter := some 0 }
        producing (·.name = "producer") := ⟨0, _, rfl, rfl, rfl⟩
    refine ⟨rfl, ⟨_, producing⟩, ⟨rfl, rfl, by decide⟩, [], [], rfl, hbound, ?_⟩
    intro other hother
    cases hother
  constructor
  · rw [(check_reports_idle_producer rule context owner (hpasses [])).1.2 fun _ _ hpart =>
      not_serves_of_empty_lambda hpart]
    rfl
  · have hserves : rule.Serves context.oracle assignment := .assigns rfl
    have hplace : (Expr.lambda [nested] none none).at? [.part 0, .receiver, .part 0] =
      some assignment := rfl
    exact (check_reports_idle_producer rule context owner (hpasses [nested])).2.1.2
      ⟨_, assignment, hplace, hserves⟩

/-- **The name at the call matters**: a call that goes to the function under another name is not
reported, though its producer does nothing. -/
theorem not_reported_under_other_name :
    ¬ ∀ (rule : ProducingState) (context : UnitContext) (owner : Declaration) (call : Call)
        (target : ResolvedMember) (producer : Argument),
      call.GoesTo context.oracle rule.function target →
      call.BindsFirst target.member (·.name = rule.producerParameter) producer →
      ((∃ violation ∈ LintRule.check rule context (.call owner call), violation.code = "PL008") ↔
        ∀ place part, producer.value.at? place = some part →
          ¬ rule.Serves context.oracle part) := by
  intro hreports
  let rule : ProducingState := { function := ⟨"runtime", "producing"⟩ }
  let producing := (Member.method "producing").addParameter
    { name := "producer", typeRef := .resolved "Function" }
  let table := SymbolTable.empty.insert
    ((Declaration.ofName "runtime.StateKt" .facade).addMember producing)
  let idle : Argument := { value := .lambda [] none none, parameter := some 0 }
  let call : Call :=
    { name := "alias", target := some ⟨"runtime.StateKt", "producing", 0⟩, arguments := [idle] }
  let context : UnitContext := ⟨{ path := ⟨"Screen.kt"⟩ }, table.oracle⟩
  let owner := Declaration.ofName "ScreenKt" .facade
  have hgoes : call.GoesTo context.oracle rule.function ⟨_, producing⟩ := ⟨rfl, rfl, by decide⟩
  have hbinds : call.BindsFirst producing (·.name = rule.producerParameter) idle := by
    refine ⟨[], [], rfl, ⟨0, _, rfl, rfl, rfl⟩, fun other hother => ?_⟩
    cases hother
  obtain ⟨violation, hviolation, -⟩ :=
    (hreports rule context owner call _ idle hgoes hbinds).2 fun _ _ hpart =>
      not_serves_of_empty_lambda hpart
  have hnil : LintRule.check rule context (.call owner call) = [] := rfl
  rw [hnil] at hviolation
  cases hviolation

end ProducingState

end DeclLint
