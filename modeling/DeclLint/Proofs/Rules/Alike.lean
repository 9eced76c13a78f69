import DeclLint.Proofs.Code.Walk
import DeclLint.Proofs.Rules.Producers
import DeclLint.Proofs.Rules.StreamOperators
import DeclLint.Proofs.Symbol.Alike
import DeclLint.Rules.Builtin

/-!
# What rules read of their context

A rule sees a node, the path and the text of its unit, and whatever the oracle resolves for it. Here
is what a built-in rule takes from all that: names, annotations, ranges, types and the parameters
that were written. Where declarations were read from it does not ask. Of parameters that nobody
wrote it asks only the properties listed by `Builtin.questions`.

So a rule finds the same about nodes that are alike, in contexts that are alike
(`Builtin.check_eq_of_alike`). What rules overlook follows from this one statement: the origin of
declarations, the order in which a table was filled, and the continuation of suspending functions.
-/

namespace DeclLint

variable {asked : List (Parameter → Bool)}

/-! ### Contexts and nodes -/

/-- The contexts are about the same file, and their oracles are alike. -/
structure UnitContext.Alike (asked : List (Parameter → Bool)) (before after : UnitContext) :
    Prop where
  /-- the file has the same path -/
  path : after.unit.path = before.unit.path
  /-- the file has the same text -/
  source : after.unit.source = before.unit.source
  /-- the oracles are alike -/
  oracle : before.oracle.Alike asked after.oracle

/-- The nodes are of one kind, and made up of declarations and members that are alike. -/
inductive Node.Alike (asked : List (Parameter → Bool)) : Node → Node → Prop where
  /-- declarations that are alike -/
  | declaration {before after : Declaration} :
    before.Alike asked after → Node.Alike asked (.declaration before) (.declaration after)
  /-- methods that are alike -/
  | method {owner owner' : Declaration} {before after : Member} :
    owner.Alike asked owner' → before.Alike asked after →
      Node.Alike asked (.method owner before) (.method owner' after)
  /-- a call in declarations that are alike -/
  | call {owner owner' : Declaration} (call : Call) :
    owner.Alike asked owner' → Node.Alike asked (.call owner call) (.call owner' call)

namespace UnitContext.Alike

variable {before after : UnitContext}

theorem refl (context : UnitContext) : context.Alike asked context :=
  ⟨rfl, rfl, .of_sameDeclarations rfl⟩

variable (h : before.Alike asked after)
include h

theorem location : after.location = before.location := by
  funext ranges
  rw [UnitContext.location, UnitContext.location, h.path]

/-- Findings are made alike: of the unit, only its path goes into them. -/
theorem violation : after.violation = before.violation := by
  funext code rule severity ranges message
  rw [UnitContext.violation, UnitContext.violation, h.location]

theorem indentOf : after.indentOf = before.indentOf := by
  funext range
  rw [UnitContext.indentOf, UnitContext.indentOf, h.source]

end UnitContext.Alike

/-- **A designated function** is found behind the same calls. It is told by the name and the
package, which do not change with parameters. -/
theorem FunctionName.alike_resolve {before after : Oracle} (h : before.Alike asked after)
    (function : FunctionName) (call : Call) :
    Option.Rel (ResolvedMember.Alike asked) (function.resolve before call)
      (function.resolve after call) := by
  rw [resolve, resolve]
  have htarget := h.resolveCall call
  generalize before.resolveCall call = target?, after.resolveCall call = target'? at htarget
  cases htarget with
  | none => exact .none
  | @some target target' htarget =>
    have hpackage : target'.owner.package = target.owner.package := by rw [htarget.owner.same]
    have hdesignates : function.designates target' = function.designates target := by
      rw [designates, designates, htarget.member.name, hpackage]
    rw [Option.filter_some, Option.filter_some, hdesignates]
    split
    · exact .some htarget
    · exact .none

/-- A parameter that is asked for by its name is found behind the same argument. -/
theorem Call.argumentNamed?_eq_of_alike {target target' : ResolvedMember} {parameter : String}
    (h : target.Alike asked target') (hasked : (fun (p : Parameter) => p.name == parameter) ∈ asked)
    (call : Call) :
    call.argumentNamed? target' parameter = call.argumentNamed? target parameter := by
  rw [argumentNamed?, argumentNamed?]
  congr 1
  funext argument
  exact h.member.any_bound hasked argument.parameter

/-- **A call passes the same argument** for a parameter that is asked for by its name, whichever of
the two oracles tells what it goes to. -/
theorem Call.passed?_eq_of_alike {before after : Oracle} (h : before.Alike asked after)
    {parameter : String} (hasked : (fun (p : Parameter) => p.name == parameter) ∈ asked)
    (call : Call) (function : FunctionName) :
    call.passed? after function parameter = call.passed? before function parameter := by
  rw [passed?, passed?]
  have htarget := function.alike_resolve h call
  generalize function.resolve before call = target?, function.resolve after call = target'?
    at htarget
  cases htarget with
  | none => rfl
  | some htarget =>
    rw [Option.bind_some, Option.bind_some, call.argumentNamed?_eq_of_alike htarget hasked]

variable {context context' : UnitContext} (h : context.Alike asked context') {node node' : Node}

/-! ### Internal APIs -/

namespace InternalApiBoundary

variable (rule : InternalApiBoundary)

include h in
/-- Whether a type is internal is a matter of the annotations and the module of its declaration. -/
theorem checkUsage_eq_of_alike : rule.checkUsage context' = rule.checkUsage context := by
  funext type fallback
  rw [checkUsage, checkUsage, h.violation]
  have htype := h.oracle.resolve type
  generalize context.oracle.resolve type = target?, context'.oracle.resolve type = target'? at htype
  cases htype with
  | none => rfl
  | @some target target' htarget =>
    obtain ⟨members, origin, rfl⟩ : ∃ members origin, target' = { target with members, origin } :=
      ⟨_, _, htarget.same⟩
    rfl

include h in
/-- **What is injected**: a field by its type, a constructor by the parameters that were written. A
constructor that gets a parameter nobody wrote is still reported for the others only. -/
theorem checkMember_eq_of_alike {member member' : Member} (hmember : member.Alike asked member') :
    rule.checkMember context' member' = rule.checkMember context member := by
  rw [checkMember, checkMember, rule.checkUsage_eq_of_alike h, hmember.userParameters, hmember.same]

include h in
theorem check_eq_of_alike (hnode : node.Alike asked node') :
    LintRule.check rule context' node' = LintRule.check rule context node := by
  cases hnode with
  | @declaration declaration declaration' hdeclaration =>
    change rule.checkDeclaration context' declaration' = rule.checkDeclaration context declaration
    have hmembers : declaration'.members.flatMap (rule.checkMember context') =
        declaration.members.flatMap (rule.checkMember context) :=
      flatMap_eq_of_forall₂ (fun _ _ hmember => rule.checkMember_eq_of_alike h hmember)
        hdeclaration.members
    rw [checkDeclaration, checkDeclaration, hmembers, hdeclaration.same, checkMarked, checkMarked,
      h.violation]
    rfl
  | method | call => rfl

end InternalApiBoundary

/-! ### Trace tags -/

namespace RequiredTag

variable (rule : RequiredTag)

section

include h

theorem isUsableTag_eq_of_alike : rule.isUsableTag context' = rule.isUsableTag context := by
  funext parameter
  rw [isUsableTag, isUsableTag, h.oracle.isSubtypeOf]

/-- **A new parameter goes to the same place**, in the same layout. It goes behind the parameters
that were written, and never behind the continuation. -/
theorem insertionPoint_eq_of_alike {member member' : Member}
    (hmember : member.Alike asked member') :
    insertionPoint context' member' = insertionPoint context member := by
  have hpoint : pointBehind context' = pointBehind context := by
    funext list parameters last
    rw [pointBehind, pointBehind, h.indentOf]
  have hshape : emptyShape context' member' = emptyShape context member := by
    funext list
    rw [emptyShape, emptyShape, h.indentOf, hmember.same]
  have hlist : member'.parameterList = member.parameterList := by rw [hmember.same]
  rw [insertionPoint, insertionPoint, hpoint, hshape, hlist, hmember.userParameters]

/-- **The tags of a method are the same**, and so is what is said about them. -/
theorem checkMethod_eq_of_alike {member member' : Member} (hmember : member.Alike asked member') :
    rule.checkMethod context' member' = rule.checkMethod context member := by
  have hwrong : rule.isWrongTag context' = rule.isWrongTag context := by
    funext parameter
    rw [isWrongTag, isWrongTag, rule.isUsableTag_eq_of_alike h]
  have hwrongTag : rule.wrongTag context' = rule.wrongTag context := by
    funext parameter
    rw [wrongTag, wrongTag, h.violation]
  have hmissing : rule.missingTag context' member' = rule.missingTag context member := by
    rw [missingTag, missingTag, tagFix?, tagFix?, insertTagFix, insertTagFix,
      insertionPoint_eq_of_alike h hmember, hmember.userParameters, h.violation, hmember.same]
  have hremote : rule.isRemoteOperation member' = rule.isRemoteOperation member := by
    rw [isRemoteOperation, isRemoteOperation, hmember.same]
  rw [checkMethod, checkMethod, hremote, hmember.userParameters, rule.isUsableTag_eq_of_alike h,
    hwrong, hwrongTag, hmissing]

theorem check_eq_of_alike (hnode : node.Alike asked node') :
    LintRule.check rule context' node' = LintRule.check rule context node := by
  cases hnode with
  | method _ hmember => exact rule.checkMethod_eq_of_alike h hmember
  | declaration | call => rfl

end

end RequiredTag

/-! ### Mandatory calls -/

namespace MandatoryCall

variable (rule : MandatoryCall)

/-- The constructors delegate to the same calls, for those stand in the code. -/
theorem constructorCalls_eq_of_alike {declaration declaration' : Declaration}
    (hdeclaration : declaration.Alike asked declaration') :
    constructorCalls declaration' = constructorCalls declaration := by
  have hconstructors : declaration'.constructors.filterMap (·.delegation) =
      declaration.constructors.filterMap (·.delegation) := by
    have hmembers := hdeclaration.filter_members (p := (·.kind == .constructor))
      fun _ _ hmember => by rw [hmember.kind]
    rw [List.filterMap_eq_flatMap_toList, List.filterMap_eq_flatMap_toList]
    exact flatMap_eq_of_forall₂ (fun _ _ hmember => by rw [hmember.same]) hmembers
  rw [constructorCalls, constructorCalls, hdeclaration.supertypes, hconstructors]

section

include h

/-- Which method is called is a matter of names, so that the mandatory one is called in both
declarations or in neither. -/
theorem callsMandatoryMethod_eq_of_alike {declaration declaration' : Declaration}
    (hdeclaration : declaration.Alike asked declaration') :
    rule.callsMandatoryMethod context' declaration' =
      rule.callsMandatoryMethod context declaration := by
  have hcall : rule.isMandatoryCall context' = rule.isMandatoryCall context := by
    funext call
    rw [isMandatoryCall, isMandatoryCall, h.oracle.any_resolveCall fun target target' htarget => ?_]
    rw [htarget.owner.qualifiedName, htarget.member.name]
  rw [callsMandatoryMethod, callsMandatoryMethod, Declaration.walkCalls_eq_each,
    Declaration.walkCalls_eq_each, hdeclaration.calls, hcall]

/-- **The call that is missing** is reported at the same place, with the same fix and labels. -/
theorem missingCall_eq_of_alike {declaration declaration' : Declaration}
    (hdeclaration : declaration.Alike asked declaration') :
    rule.missingCall context' declaration' = rule.missingCall context declaration := by
  obtain ⟨members, origin, rfl⟩ :
      ∃ members origin, declaration' = { declaration with members, origin } :=
    ⟨_, _, hdeclaration.same⟩
  funext disproofs
  rw [missingCall, missingCall, initBlockFix, initBlockFix, h.violation, h.location, h.indentOf]

variable (hasked :
  (fun (p : Parameter) => context.oracle.isSubtypeOf p.typeRef rule.preconditions) ∈ asked)
include hasked

/-- **What a call says against skipping** is read off the argument for preconditions, which is found
by the type of its parameter. -/
theorem disproof?_eq_of_alike : rule.disproof? context' = rule.disproof? context := by
  funext call
  rw [disproof?, disproof?]
  have htarget := h.oracle.resolveCall call
  generalize context.oracle.resolveCall call = target?,
    context'.oracle.resolveCall call = target'? at htarget
  cases htarget with
  | none => rfl
  | @some target target' htarget =>
    have hbase : rule.isBaseConstructor target' = rule.isBaseConstructor target := by
      rw [isBaseConstructor, isBaseConstructor, htarget.member.kind, htarget.owner.qualifiedName]
    have hargument : rule.preconditionArgument? context' call target' =
        rule.preconditionArgument? context call target := by
      rw [preconditionArgument?, preconditionArgument?, h.oracle.isSubtypeOf]
      congr 1
      funext argument
      exact htarget.member.any_bound hasked argument.parameter
    simp only [Option.bind_eq_bind, Option.bind_some, hbase, hargument]

theorem check_eq_of_alike (hnode : node.Alike asked node') :
    LintRule.check rule context' node' = LintRule.check rule context node := by
  cases hnode with
  | @declaration declaration declaration' hdeclaration =>
    change rule.checkDeclaration context' declaration' = rule.checkDeclaration context declaration
    have happlies : rule.applies context' declaration' = rule.applies context declaration := by
      have hkind : declaration'.kind = declaration.kind := by rw [hdeclaration.same]
      rw [applies, applies, h.oracle.declarationIsSubtypeOf hdeclaration,
        hdeclaration.qualifiedName, hkind]
    rw [checkDeclaration, checkDeclaration, happlies, constructorCalls_eq_of_alike hdeclaration,
      rule.disproof?_eq_of_alike h hasked, rule.callsMandatoryMethod_eq_of_alike h hdeclaration,
      rule.missingCall_eq_of_alike h hdeclaration]
  | method | call => rfl

end

end MandatoryCall

/-! ### Memoizing calls -/

namespace NonVoidMemoization

variable (rule : NonVoidMemoization)

/-- **The calculation is the same argument**, the one for the last parameter that was written. -/
theorem calculation?_eq_of_alike {target target' : ResolvedMember}
    (h : target.member.Alike asked target'.member) (call : Call) :
    calculation? call target' = calculation? call target := by
  rw [calculation?, calculation?, h.userParameters]

include h in
theorem check_eq_of_alike (hnode : node.Alike asked node') :
    LintRule.check rule context' node' = LintRule.check rule context node := by
  cases hnode with
  | call call _ =>
    change rule.checkCall context' call = rule.checkCall context call
    rw [checkCall, checkCall, h.violation]
    have htarget := rule.function.alike_resolve h.oracle call
    generalize rule.function.resolve context.oracle call = target?,
      rule.function.resolve context'.oracle call = target'? at htarget
    cases htarget with
    | none => rfl
    | @some target target' htarget =>
      have hvoid : rule.calculationIsVoid call target' = rule.calculationIsVoid call target := by
        rw [calculationIsVoid, calculationIsVoid, calculation?_eq_of_alike htarget.member]
      simp only [hvoid]
  | declaration | method => rfl

end NonVoidMemoization

/-! ### Stream operators -/

namespace RestrictedOperator

variable (rule : RestrictedOperator)

include h in
/-- **A stream operator** is told by types: of its receiver, of its result, and the type it
extends. -/
theorem isStreamOperator_eq_of_alike :
    rule.isStreamOperator context' = rule.isStreamOperator context := by
  funext call
  rw [isStreamOperator, isStreamOperator, h.oracle.isSubtypeOf,
    h.oracle.any_resolveCall fun target target' htarget => ?_]
  rw [yieldsStream, yieldsStream, h.oracle.isSubtypeOf, htarget.member.same]

include h in
theorem check_eq_of_alike (hasked : (fun (p : Parameter) => p.name == rule.blockParameter) ∈ asked)
    (hnode : node.Alike asked node') :
    LintRule.check rule context' node' = LintRule.check rule context node := by
  cases hnode with
  | call call _ =>
    change rule.checkCall context' call = rule.checkCall context call
    have hfirst : rule.firstOperator? context' = rule.firstOperator? context := by
      funext expr
      rw [firstOperator?, firstOperator?, rule.isStreamOperator_eq_of_alike h]
    have hforbidden : rule.forbidden context' = rule.forbidden context := by
      funext operator
      rw [forbidden, forbidden, h.violation]
    rw [checkCall_eq, checkCall_eq, hfirst, hforbidden, call.passed?_eq_of_alike h.oracle hasked]
  | declaration | method => rfl

end RestrictedOperator

/-! ### Produced states -/

namespace ProducingState

variable (rule : ProducingState)

section

include h

theorem takesScope_eq_of_alike : rule.takesScope context' = rule.takesScope context := by
  funext type
  rw [takesScope, takesScope, h.oracle.isSubtypeOf]

variable (hscope : (fun (p : Parameter) => rule.takesScope context p.typeRef) ∈ asked)
include hscope

/-- **A scope is handed on** to any parameter of its type, written or not. This is one of the
questions a rule asks about parameters that nobody wrote. -/
theorem passesScope_eq_of_alike : rule.passesScope context' = rule.passesScope context := by
  funext expr
  cases expr with
  | call call =>
    rw [passesScope, passesScope, rule.takesScope_eq_of_alike h,
      h.oracle.any_resolveCall fun target target' htarget => ?_]
    have hreceiver : target'.member.receiver = target.member.receiver := by
      rw [htarget.member.same]
    rw [htarget.member.any_parameters hscope, hreceiver]
  | lambda | reference | assign | literal | other => rfl

theorem check_eq_of_alike
    (hproducer : (fun (p : Parameter) => p.name == rule.producerParameter) ∈ asked)
    (hnode : node.Alike asked node') :
    LintRule.check rule context' node' = LintRule.check rule context node := by
  cases hnode with
  | call call _ =>
    change rule.checkCall context' call = rule.checkCall context call
    have hassigns : rule.assignsProperty context' = rule.assignsProperty context := by
      funext expr
      simp only [assignsProperty, h.oracle.isSubtypeOf]
    have hsatisfied : rule.isSatisfied context' = rule.isSatisfied context := by
      funext producer
      rw [isSatisfied, isSatisfied, hassigns, rule.passesScope_eq_of_alike h hscope]
    rw [checkCall_eq, checkCall_eq, hsatisfied, h.violation,
      call.passed?_eq_of_alike h.oracle hproducer]
  | declaration | method => rfl

end

end ProducingState

/-! ### All rules -/

namespace Builtin

/-- What a rule asks about parameters that nobody may have written. -/
def questions (oracle : Oracle) : Builtin → List (Parameter → Bool)
  | mandatoryCall rule => [fun p => oracle.isSubtypeOf p.typeRef rule.preconditions]
  | restrictedOperator rule => [fun p => p.name == rule.blockParameter]
  | producingState rule =>
    [fun p => p.name == rule.producerParameter,
      fun p => oracle.isSubtypeOf p.typeRef rule.scope || p.typeRef.isNamed rule.mutableState]
  | internalApiBoundary _ | requiredTag _ | nonVoidMemoization _ => []

include h in
/-- **A rule reads nothing else**: it finds the same about nodes that are alike in contexts that are
alike, as long as no property it asks about tells the parameters apart. -/
theorem check_eq_of_alike {rule : Builtin} (hasked : rule.questions context.oracle ⊆ asked)
    (hnode : node.Alike asked node') : rule.check context' node' = rule.check context node := by
  cases rule with
  | internalApiBoundary rule => exact rule.check_eq_of_alike h hnode
  | requiredTag rule => exact rule.check_eq_of_alike h hnode
  | nonVoidMemoization rule => exact rule.check_eq_of_alike h hnode
  | mandatoryCall rule => exact rule.check_eq_of_alike h (hasked List.mem_cons_self) hnode
  | restrictedOperator rule => exact rule.check_eq_of_alike h (hasked List.mem_cons_self) hnode
  | producingState rule =>
    obtain ⟨hproducer, hscope⟩ := List.cons_subset.1 hasked
    exact rule.check_eq_of_alike h (hscope List.mem_cons_self) hproducer hnode

end Builtin

end DeclLint
