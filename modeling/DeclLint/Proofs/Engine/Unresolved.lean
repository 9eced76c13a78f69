import DeclLint.Proofs.Engine.Isolation
import DeclLint.Proofs.Engine.Report
import DeclLint.Rules.Preset

/-!
# Unresolved code is not flagged

An oracle that knows nothing resolves no type, no member and no call, and a type has no supertype
but itself (`Oracle.KnowsNothing.isSubtypeOf`). Then

* a call is never taken for a call of a designated function, so the rules about calls are silent,
  and nothing is known about preconditions either;
* the use of a type is not reported as internal, and no tag is of a proper subtype.

What is left can be read off the code as it is written: a marker outside the restricted module
(`PL001`) and a remote operation without a tag (`PL003`).
-/

namespace DeclLint

/-- The oracle has no declaration for any name. -/
def Oracle.KnowsNothing (oracle : Oracle) : Prop := ∀ name, oracle.declaration name = none

namespace Oracle.KnowsNothing

variable {oracle : Oracle} (h : oracle.KnowsNothing)
include h

/-- Where nothing is known, no type has a declaration. -/
theorem resolve (type : TypeRef) : oracle.resolve type = none := by
  rw [Oracle.resolve]
  rcases type.target with _ | name
  · rfl
  · exact h name

/-- **No call has a target**, as a target is a member of a declaration that is known. -/
theorem resolveCall (call : Call) : oracle.resolveCall call = none := by
  rw [Oracle.resolveCall]
  rcases call.target with _ | reference
  · rfl
  · simp only [Option.bind_some, Oracle.resolveMember, h reference.owner]
    rfl

/-- **A type is below itself only**, which shows without its declaration. All other subtypes are
found through supertype lists. -/
theorem isSubtypeOf (type : TypeRef) (name : String) :
    oracle.isSubtypeOf type name = type.isNamed name := by
  rw [Oracle.isSubtypeOf, h.resolve, Bool.or_false]

/-- No call is known to be one of a designated function, whatever its name. -/
theorem resolve_function (function : FunctionName) (call : Call) :
    function.resolve oracle call = none := by
  rw [FunctionName.resolve, h.resolveCall]
  rfl

end Oracle.KnowsNothing

/-! ### Rule by rule -/

variable {context : UnitContext} {node : Node} {violation : Violation}

namespace InternalApiBoundary

variable {rule : InternalApiBoundary}

/-- Nothing is known to be internal, so no use of it is reported. -/
theorem checkMember_of_knowsNothing (h : context.oracle.KnowsNothing) (member : Member) :
    rule.checkMember context member = [] := by
  have husage (type : TypeRef) (fallback : Option Range) :
      rule.checkUsage context type fallback = none := by
    rw [checkUsage, h.resolve]
    rfl
  rw [checkMember]
  split
  · rfl
  · rcases member.kind with _ | _ | _ | _
    · rcases member.declaredType with _ | type
      · rfl
      · simp only [husage, Option.toList_none]
    · simp only [husage, List.filterMap_none]
    · rfl
    · rfl

/-- What is left of the rule about internal APIs are markers, which are read off the code itself. -/
theorem code_of_knowsNothing (h : context.oracle.KnowsNothing)
    (hmem : violation ∈ LintRule.check rule context node) : violation.code = code := by
  cases node with
  | declaration declaration =>
    change violation ∈ rule.checkDeclaration context declaration at hmem
    rw [checkDeclaration] at hmem
    split at hmem
    · cases hmem
    · have hmembers : declaration.members.flatMap (rule.checkMember context) = [] :=
        List.flatMap_eq_nil_iff.2 fun member _ => checkMember_of_knowsNothing h member
      rw [hmembers, List.append_nil] at hmem
      obtain ⟨marker, -, rfl⟩ := Option.map_eq_some_iff.1 (Option.mem_toList.1 hmem)
      rfl
  | method | call => cases hmem

end InternalApiBoundary

namespace RequiredTag

variable {rule : RequiredTag}

/-- **No tag is of a proper subtype**: a tag whose type is below the base type is of the base
type. -/
theorem isWrongTag_of_knowsNothing (h : context.oracle.KnowsNothing) (parameter : Parameter) :
    rule.isWrongTag context parameter = false := by
  rw [isWrongTag, isUsableTag, h.isSubtypeOf]
  rcases parameter.typeRef.isNamed rule.tagBase with _ | _ <;> simp

/-- What is left of the rule about tags is the missing tag. A tag may still be found, by its very
name. -/
theorem code_of_knowsNothing (h : context.oracle.KnowsNothing)
    (hmem : violation ∈ LintRule.check rule context node) : violation.code = code := by
  cases node with
  | method owner member =>
    change violation ∈ rule.checkMethod context member at hmem
    rw [checkMethod] at hmem
    split at hmem
    · cases hmem
    · split at hmem
      · obtain ⟨parameter, hparameter, -⟩ := List.mem_map.1 hmem
        have hwrong := (List.mem_filter.1 hparameter).2
        rw [isWrongTag_of_knowsNothing h] at hwrong
        cases hwrong
      · obtain rfl := List.mem_singleton.1 hmem
        exact code_missingTag member
  | declaration | call => cases hmem

end RequiredTag

/-- No call of a base constructor is known, so nothing speaks against skipping. A declaration may
still be known to lie below the base class, by the name in its supertype list. -/
theorem MandatoryCall.check_of_knowsNothing (rule : MandatoryCall)
    (h : context.oracle.KnowsNothing) :
    LintRule.check rule context node = [] := by
  cases node with
  | declaration declaration =>
    change rule.checkDeclaration context declaration = []
    have hdisproofs : (constructorCalls declaration).filterMap (rule.disproof? context) = [] := by
      refine List.filterMap_eq_nil_iff.2 fun call _ => ?_
      rw [disproof?, h.resolveCall]
      rfl
    rw [checkDeclaration, hdisproofs]
    split <;> rfl
  | method | call => rfl

theorem NonVoidMemoization.check_of_knowsNothing (rule : NonVoidMemoization)
    (h : context.oracle.KnowsNothing) : LintRule.check rule context node = [] := by
  cases node with
  | call owner call =>
    change rule.checkCall context call = []
    rw [checkCall, h.resolve_function]
    split <;> rfl
  | declaration | method => rfl

theorem RestrictedOperator.check_of_knowsNothing (rule : RestrictedOperator)
    (h : context.oracle.KnowsNothing) : LintRule.check rule context node = [] := by
  cases node with
  | call owner call =>
    change rule.checkCall context call = []
    rw [checkCall, h.resolve_function]
    split <;> rfl
  | declaration | method => rfl

theorem ProducingState.check_of_knowsNothing (rule : ProducingState)
    (h : context.oracle.KnowsNothing) : LintRule.check rule context node = [] := by
  cases node with
  | call owner call =>
    change rule.checkCall context call = []
    rw [checkCall, h.resolve_function]
    split <;> rfl
  | declaration | method => rfl

/-! ### All rules -/

/-- **What a rule finds without resolution** is a marker or a missing tag. The other rules are about
calls, and find nothing about a call that has no known target. -/
theorem Builtin.code_of_knowsNothing {rule : Builtin} (h : context.oracle.KnowsNothing)
    (hmem : violation ∈ rule.check context node) :
    violation.code = InternalApiBoundary.code ∨ violation.code = RequiredTag.code := by
  cases rule with
  | internalApiBoundary rule => exact .inl (InternalApiBoundary.code_of_knowsNothing h hmem)
  | requiredTag rule => exact .inr (RequiredTag.code_of_knowsNothing h hmem)
  | mandatoryCall rule =>
    exact absurd hmem (List.eq_nil_iff_forall_not_mem.1 (rule.check_of_knowsNothing h) violation)
  | nonVoidMemoization rule =>
    exact absurd hmem (List.eq_nil_iff_forall_not_mem.1 (rule.check_of_knowsNothing h) violation)
  | restrictedOperator rule =>
    exact absurd hmem (List.eq_nil_iff_forall_not_mem.1 (rule.check_of_knowsNothing h) violation)
  | producingState rule =>
    exact absurd hmem (List.eq_nil_iff_forall_not_mem.1 (rule.check_of_knowsNothing h) violation)

namespace Engine

/-- Every finding of a pass is about the settings or was made by the rules, but for its severity. -/
theorem made_of_mem_violations {engine : Engine Builtin} {oracle : Oracle}
    {units : List CompilationUnit} (h : violation ∈ (engine.analyze oracle units).violations) :
    violation.code = settingsCode ∨ ∃ unit ∈ units, ∃ node ∈ unit.nodes, ∃ rule : Builtin,
      ∃ made ∈ rule.check ⟨unit, oracle⟩ node, ∃ severity, violation = { made with severity } := by
  rcases List.mem_append.1 h with h | h
  · obtain ⟨issue, -, rfl⟩ := List.mem_map.1 h
    exact .inl rfl
  · have hfound : violation ∈ engine.found oracle units :=
      List.mem_mergeSort.1 ((dropRepeats_sublist _).subset h)
    obtain ⟨unit, hunit, h⟩ := List.mem_flatMap.1 hfound
    exact .inr ⟨unit, hunit, made_of_mem_analyzeUnit h⟩

/-- **Unresolved code is not flagged by rules that need resolution**: when the oracle knows nothing,
every finding that is not about the settings is a marker outside the restricted module or a missing
tag. -/
theorem code_of_mem_violations_of_knowsNothing (engine : Engine Builtin)
    (units : List CompilationUnit) {oracle : Oracle}
    (hnone : ∀ name, oracle.declaration name = none) :
    ∀ violation ∈ (engine.analyze oracle units).violations, violation.code ≠ "PL000" →
      violation.code = "PL001" ∨ violation.code = "PL003" := by
  intro violation hviolation hsettings
  rcases made_of_mem_violations hviolation with
    hcode | ⟨unit, -, node, -, rule, made, hmade, _, rfl⟩
  · exact absurd hcode hsettings
  · exact @Builtin.code_of_knowsNothing ⟨unit, oracle⟩ node made rule hnone hmade

/-- A marked interface with an injected property, a remote operation with a tag of another type and
a call of a memoizing function, none of which can be looked up: the property and the call are not
reported. -/
theorem codes_without_declarations :
    let field := (Member.field "secret" (.resolved "platform.Secret")).annotate
      { qualifiedName := "javax.inject.Inject" }
    let marked := ((Declaration.ofName "app.Home" .interface).annotate
      { qualifiedName := "de.zalando.lounge.annotations.InternalPlatformApi" }).addMember field
    let tag : Parameter :=
      { name := "tag", typeRef := .resolved "app.Trace"
        annotations := [{ qualifiedName := "retrofit2.http.Tag" }] }
    let fetch := ((Member.method "fetch").annotate
      { qualifiedName := "retrofit2.http.GET" }).addParameter tag
    let call : Call :=
      { name := "remember"
        target := some { owner := "me.jansv.runtime.RememberKt", name := "remember" }
        staticType := some (.resolved "kotlin.Unit") }
    let units : List CompilationUnit :=
      [{ path := ⟨"Home.kt"⟩
         declarations := [marked, (Declaration.ofName "app.Api" .interface).addMember fetch,
          (Declaration.ofName "app.HomeKt" .facade).addMember
            ((Member.method "show").addStatement (.call call))] }]
    let engine : Engine Builtin :=
      { rules := Preset.allRules, settings := {}, issues := [.unknownPreset "all"] }
    (engine.settingsViolations ++ engine.found SymbolTable.empty.oracle units).map (·.code) =
        ["PL000", "PL001", "PL003"] ∧
      (∀ name, SymbolTable.empty.oracle.declaration name = none) ∧
      ∀ violation ∈ (engine.analyze SymbolTable.empty.oracle units).violations,
        violation.code ≠ "PL000" → violation.code = "PL001" ∨ violation.code = "PL003" := by
  intro field marked tag fetch call units engine
  have hnone : ∀ name, SymbolTable.empty.oracle.declaration name = none := fun _ => rfl
  exact ⟨by decide +kernel, hnone, code_of_mem_violations_of_knowsNothing engine units hnone⟩

end Engine

end DeclLint
