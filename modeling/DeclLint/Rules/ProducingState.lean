import DeclLint.Code.Walk
import DeclLint.Rule.Basic
import DeclLint.Symbol.Function

/-!
# Producers assign the state they produce

A produced state has no value but what its producer assigns. A producer therefore has to assign the
property, or to hand its scope on to a function that may (`PL008`).

* An assignment counts if it is to a reference of the property's name that resolves to a member of a
  mutable state.
* A call hands the scope on if the function called has a parameter, or extends a type, that is the
  scope, a subtype of it, or exactly the mutable state.
-/

namespace DeclLint

/-- The rule `producing-state-assignment`. -/
structure ProducingState where
  /-- the severity of its findings -/
  severity : Severity := .error
  /-- the function that takes a producer -/
  function : FunctionName := .parse "me.jansv.runtime.producingState"
  /-- the name of its parameter for the producer -/
  producerParameter : String := "producer"
  /-- the type of the producer's scope -/
  scope : String := "me.jansv.runtime.ProducingStateScope"
  /-- the type of mutable states -/
  mutableState : String := "me.jansv.runtime.MutableState"
  /-- the property to be assigned -/
  property : String := "value"
deriving Repr, Inhabited

namespace ProducingState

/-- The name of the rule. -/
def name : String := "producing-state-assignment"

/-- The code of the rule. -/
def code : String := "PL008"

/-- The options of the rule. -/
def settings : List (Setting ProducingState) := [
  .qualifiedName "function" fun value rule => { rule with function := .parse value },
  .identifier "producer_parameter" fun value rule => { rule with producerParameter := value },
  .qualifiedName "scope" fun value rule => { rule with scope := value },
  .qualifiedName "mutable_state" fun value rule => { rule with mutableState := value },
  .identifier "property" fun value rule => { rule with property := value }]

variable (rule : ProducingState) (context : UnitContext)

/-- Whether an expression assigns the property of a mutable state. -/
def assignsProperty : Expr → Bool
  | .assign (.reference name target _ _) _ _ =>
    name == rule.property &&
      target.any fun member =>
        context.oracle.isSubtypeOf (.resolved member.owner) rule.mutableState
  | _ => false

/-- Whether a type is a scope or exactly the mutable state. -/
def takesScope (type : TypeRef) : Bool :=
  context.oracle.isSubtypeOf type rule.scope || type.isNamed rule.mutableState

/-- Whether an expression is a call that hands the scope on. -/
def passesScope : Expr → Bool
  | .call call =>
    (context.oracle.resolveCall call).any fun target =>
      target.member.parameters.any (rule.takesScope context ·.typeRef) ||
        target.member.receiver.any (rule.takesScope context)
  | _ => false

/-- Whether some part of a producer assigns the property or hands the scope on. -/
def isSatisfied (producer : Expr) : Bool :=
  (producer.walk (Walk.search fun expr =>
    rule.assignsProperty context expr || rule.passesScope context expr) none).1 == .halt

/-- Checks a call. -/
def checkCall (call : Call) : List Violation :=
  if call.name != rule.function.name then
    []
  else
    match rule.function.resolve context.oracle call with
    | none => []
    | some target =>
      match call.argumentNamed? target rule.producerParameter with
      | none => []
      | some producer =>
        if rule.isSatisfied context producer.value then
          []
        else
          [context.violation code name rule.severity [call.reportRange]
            ("`" ++ rule.function.name ++ "` calls should assign `" ++ rule.property ++
              "` inside the " ++ rule.producerParameter ++ " lambda")]

instance : LintRule ProducingState where
  name _ := name
  code _ := code
  description _ := "Requires producer lambdas to assign the produced value"
  severity := severity
  interests _ := [.call]
  configure := Setting.configure name settings
  check rule context
    | .call _ call => rule.checkCall context call
    | _ => []

end ProducingState

end DeclLint
