import DeclLint.Code.Walk
import DeclLint.Edit.Layout
import DeclLint.Rule.Basic

/-!
# Subclasses that check preconditions handle failures

The constructor of the base class takes preconditions. A subclass that passes the skip sentinel can
never fail them; one that passes anything of another static type can, and then has to call the
mandatory method of the base class somewhere (`PL005`).

A subclass is taken to skip preconditions until one of its direct calls of a base constructor says
otherwise: a call from the supertype list or the delegation of a constructor. An argument without a
static type says nothing. The fix inserts an `init` block with the call.
-/

namespace DeclLint

/-- The rule `mandatory-call-under-skip`. -/
structure MandatoryCall where
  /-- the severity of its findings -/
  severity : Severity := .error
  /-- the base class -/
  base : String := "me.jansv.viewmodel.AbstractViewModel"
  /-- the type of preconditions -/
  preconditions : String := "me.jansv.viewmodel.UiPreconditions"
  /-- the type that stands for no preconditions -/
  sentinel : String := "me.jansv.viewmodel.SkipPreconditions"
  /-- the method of the base class that subclasses have to call -/
  method : String := "onUncaughtException"
deriving Repr, Inhabited

namespace MandatoryCall

/-- The name of the rule. -/
def name : String := "mandatory-call-under-skip"

/-- The code of the rule. -/
def code : String := "PL005"

/-- The options of the rule. -/
def settings : List (Setting MandatoryCall) := [
  .qualifiedName "base" fun value rule => { rule with base := value },
  .qualifiedName "preconditions" fun value rule => { rule with preconditions := value },
  .qualifiedName "sentinel" fun value rule => { rule with sentinel := value },
  .identifier "method" fun value rule => { rule with method := value }]

/-- A call of a base constructor that passes preconditions of some other type than the sentinel. -/
structure Disproof where
  /-- the call -/
  call : Call
  /-- the static type of the preconditions -/
  staticType : TypeRef

/-- The constructor calls a declaration makes directly: those of the supertype list, then the
delegations of its constructors. -/
def constructorCalls (declaration : Declaration) : List Call :=
  declaration.supertypes.filterMap (·.call) ++
    declaration.constructors.filterMap (·.delegation)

variable (rule : MandatoryCall) (context : UnitContext)

/-- Whether a member is a constructor of the base class. -/
def isBaseConstructor (target : ResolvedMember) : Bool :=
  target.member.kind == .constructor && target.owner.qualifiedName == rule.base

/-- The first argument bound to a parameter for preconditions. -/
def preconditionArgument? (call : Call) (target : ResolvedMember) : Option Argument :=
  call.arguments.find? fun argument =>
    (argument.parameter.bind (target.member.parameters[·]?)).any fun parameter =>
      context.oracle.isSubtypeOf parameter.typeRef rule.preconditions

/-- What a call says against skipping. -/
def disproof? (call : Call) : Option Disproof := do
  let target ← context.oracle.resolveCall call
  if !rule.isBaseConstructor target then none
  let argument ← rule.preconditionArgument? context call target
  let staticType ← argument.value.staticType
  if staticType.isNamed rule.sentinel then none else return { call, staticType }

/-- Whether a call is a call of the mandatory method. -/
def isMandatoryCall (call : Call) : Bool :=
  call.name == rule.method &&
    (context.oracle.resolveCall call).any fun target =>
      target.owner.qualifiedName == rule.base && target.member.name == rule.method

/-- Whether a declaration calls the mandatory method anywhere. -/
def callsMandatoryMethod (declaration : Declaration) : Bool :=
  (declaration.walkCalls (Walk.search (rule.isMandatoryCall context)) none).1 == .halt

/-- The fix that inserts an `init` block at the beginning of the body, or a body with one behind the
supertype list. -/
def initBlockFix (declaration : Declaration) : Option Fix := do
  let outer := match declaration.range with
    | some range => context.indentOf range
    | none => ""
  let statement := rule.method ++ " \x7b /* handle failure */ \x7d"
  let title := "Insert `" ++ rule.method ++ "` call"
  match declaration.body with
  | some body =>
    let brace ← body.openBrace
    return Fix.insertion title brace.stop.offset (Layout.initBlock statement outer false)
  | none =>
    let last ← declaration.supertypes.getLast?
    let range ← last.range
    return Fix.insertion title range.stop.offset (Layout.initBlock statement outer true)

/-- Reports a missing call, with a label at each call that speaks against skipping. -/
def missingCall (declaration : Declaration) (disproofs : List Disproof) : Violation :=
  let violation := context.violation code name rule.severity
    [declaration.nameRange, declaration.range]
    ("`" ++ declaration.name ++ "` must call `" ++ rule.method ++ "`")
  { violation.withFix (rule.initBlockFix context declaration) with
    labels := disproofs.map fun disproof =>
      { location := context.location [disproof.call.range]
        message := "preconditions passed with static type `" ++ disproof.staticType.text ++ "`" } }

/-- Whether the rule is about a declaration: a class or object below the base class. -/
def applies (declaration : Declaration) : Bool :=
  declaration.qualifiedName != rule.base &&
    (declaration.kind == .classType || declaration.kind == .object) &&
    context.oracle.declarationIsSubtypeOf declaration rule.base

/-- Checks a declaration. -/
def checkDeclaration (declaration : Declaration) : List Violation :=
  if !rule.applies context declaration then
    []
  else
    match (constructorCalls declaration).filterMap (rule.disproof? context) with
    | [] => []
    | disproofs =>
      if rule.callsMandatoryMethod context declaration then []
      else [rule.missingCall context declaration disproofs]

instance : LintRule MandatoryCall where
  name _ := name
  code _ := code
  description _ := "Requires a failure handler when preconditions are not skipped"
  severity := severity
  interests _ := [.declaration]
  configure := Setting.configure name settings
  check rule context
    | .declaration declaration => rule.checkDeclaration context declaration
    | _ => []

end MandatoryCall

end DeclLint
