import DeclLint.Symbol.Oracle

/-!
# Designated functions

Rules about calls designate a function by its qualified name. A call is a call of that function when
it resolves to a member of that name whose owner lies in that package.
-/

namespace DeclLint

namespace FunctionName

/-- Whether a resolved member is this function. -/
def designates (function : FunctionName) (resolved : ResolvedMember) : Bool :=
  resolved.member.name == function.name && resolved.owner.package == function.package

/-- The member a call goes to, if that is this function. -/
def resolve (function : FunctionName) (oracle : Oracle) (call : Call) : Option ResolvedMember :=
  (oracle.resolveCall call).filter function.designates

end FunctionName

/-- The first argument bound to a parameter of the given name. -/
def Call.argumentNamed? (call : Call) (resolved : ResolvedMember) (parameter : String) :
    Option Argument :=
  call.arguments.find? fun argument =>
    (argument.parameter.bind (resolved.member.parameters[·]?)).any (·.name == parameter)

end DeclLint
