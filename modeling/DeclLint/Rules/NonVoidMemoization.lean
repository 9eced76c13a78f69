import DeclLint.Rule.Basic
import DeclLint.Symbol.Function

/-!
# Memoized values are not void

A memoizing call caches what its calculation returns. A call of static type void caches nothing
(`PL006`), unless its last argument is a lambda whose last statement has a known type that is not
void.

Calls of unknown static type are not reported.
-/

namespace DeclLint

/-- The rule `non-void-memoization`. -/
structure NonVoidMemoization where
  /-- the severity of its findings -/
  severity : Severity := .error
  /-- the memoizing function -/
  function : FunctionName := .parse "me.jansv.runtime.remember"
  /-- the types that count as void -/
  voidTypes : List String := ["kotlin.Unit", "void", "java.lang.Void"]
deriving Repr, Inhabited

namespace NonVoidMemoization

/-- The name of the rule. -/
def name : String := "non-void-memoization"

/-- The code of the rule. -/
def code : String := "PL006"

/-- The options of the rule. -/
def settings : List (Setting NonVoidMemoization) := [
  .qualifiedName "function" fun value rule => { rule with function := .parse value },
  .qualifiedNames "void_types" fun value rule => { rule with voidTypes := value }]

variable (rule : NonVoidMemoization) (context : UnitContext)

/-- Whether a type is known to be void. -/
def isVoid (type : TypeRef) : Bool := type.target.any rule.voidTypes.contains

/-- The argument for the last parameter that was written. -/
def calculation? (call : Call) (target : ResolvedMember) : Option Argument :=
  match target.member.userParameters.length with
  | 0 => none
  | last + 1 => call.argumentFor? last

/-- Whether the last statement of a lambda has no value: its type is void or not known. -/
def endsVoid (statements : List Expr) : Bool :=
  match (statements.getLast?.bind (·.staticType)).filter (·.target.isSome) with
  | some type => rule.isVoid type
  | none => true

/-- Whether the calculation of a call yields no value. -/
def calculationIsVoid (call : Call) (target : ResolvedMember) : Bool :=
  (match call.typeArguments with
    | [type] => rule.isVoid type
    | _ => false) ||
  match calculation? call target with
  | some { value := .lambda statements _ _, .. } => rule.endsVoid statements
  | _ => true

/-- Checks a call. -/
def checkCall (call : Call) : List Violation :=
  if call.name != rule.function.name then
    []
  else
    match rule.function.resolve context.oracle call with
    | none => []
    | some target =>
      if call.staticType.any rule.isVoid && rule.calculationIsVoid call target then
        [context.violation code name rule.severity [call.reportRange]
          ("`" ++ rule.function.name ++ "` calls must not return `Unit`")]
      else
        []

instance : LintRule NonVoidMemoization where
  name _ := name
  code _ := code
  description _ := "Forbids memoization calls that return the unit type"
  severity := severity
  interests _ := [.call]
  configure := Setting.configure name settings
  check rule context
    | .call _ call => rule.checkCall context call
    | _ => []

end NonVoidMemoization

end DeclLint
