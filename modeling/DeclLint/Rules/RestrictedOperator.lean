import DeclLint.Code.Walk
import DeclLint.Rule.Basic
import DeclLint.Symbol.Function

/-!
# No stream operators in the restricted scope

The block of the gate function runs again and again, and a stream operator in it would build a new
stream each time. The first stream operator in the block is reported (`PL007`).

A call is a stream operator if it is made on a stream and either returns a stream or is an extension
of exactly the stream type. Calls that do not resolve are passed over.
-/

namespace DeclLint

/-- The rule `restricted-operator`. -/
structure RestrictedOperator where
  /-- the severity of its findings -/
  severity : Severity := .error
  /-- the gate function -/
  gate : FunctionName := .parse "me.jansv.runtime.restrictedFlowCalls"
  /-- the name of the gate's parameter for the block -/
  blockParameter : String := "block"
  /-- the stream type -/
  stream : String := "kotlinx.coroutines.flow.Flow"
deriving Repr, Inhabited

namespace RestrictedOperator

/-- The name of the rule. -/
def name : String := "restricted-operator"

/-- The code of the rule. -/
def code : String := "PL007"

/-- The options of the rule. -/
def settings : List (Setting RestrictedOperator) := [
  .qualifiedName "gate" fun value rule => { rule with gate := .parse value },
  .identifier "block_parameter" fun value rule => { rule with blockParameter := value },
  .qualifiedName "stream" fun value rule => { rule with stream := value }]

variable (rule : RestrictedOperator) (context : UnitContext)

/-- Whether a member returns a stream or extends exactly the stream type. -/
def yieldsStream (member : Member) : Bool :=
  member.declaredType.any (context.oracle.isSubtypeOf · rule.stream) ||
    member.receiver.any (·.isNamed rule.stream)

/-- Whether a call is a stream operator. -/
def isStreamOperator (call : Call) : Bool :=
  call.receiverType.any (context.oracle.isSubtypeOf · rule.stream) &&
    (context.oracle.resolveCall call).any fun target => rule.yieldsStream context target.member

/-- The first stream operator in an expression. -/
def firstOperator? (expr : Expr) : Option Call :=
  (expr.walkCalls (Walk.search (rule.isStreamOperator context)) none).2

/-- Reports a stream operator. -/
def forbidden (operator : Call) : Violation :=
  context.violation code name rule.severity [operator.reportRange]
    (simpleName rule.stream ++ " operator `" ++ operator.name ++
      "` must not be invoked within `" ++ rule.gate.name ++ " \x7b \x7d`")

/-- Checks a call. -/
def checkCall (call : Call) : List Violation :=
  if call.name != rule.gate.name then
    []
  else
    match rule.gate.resolve context.oracle call with
    | none => []
    | some target =>
      match call.argumentNamed? target rule.blockParameter with
      | none => []
      | some block =>
        ((rule.firstOperator? context block.value).map (rule.forbidden context)).toList

instance : LintRule RestrictedOperator where
  name _ := name
  code _ := code
  description _ := "Forbids stream operators inside the restricted scope"
  severity := severity
  interests _ := [.call]
  configure := Setting.configure name settings
  check rule context
    | .call _ call => rule.checkCall context call
    | _ => []

end RestrictedOperator

end DeclLint
