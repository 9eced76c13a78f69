import DeclLint.Rule.Basic

/-!
# A rule that reports what it is shown

`Probe` reports every node of the kinds it is interested in. It shows how an engine dispatches
nodes.
-/

namespace DeclLint

/-- The rule `probe`. -/
structure Probe where
  /-- the kinds of nodes to report; repeats mean nothing -/
  interests : List NodeKind
deriving Repr, Inhabited

namespace Probe

/-- The name of the rule. -/
def name : String := "probe"

/-- The code of the rule. -/
def code : String := "T000"

/-- Reports a node. -/
def report (context : UnitContext) : Node → Violation
  | .declaration declaration =>
    context.violation code name .error [declaration.range]
      ("declaration " ++ declaration.qualifiedName)
  | .method owner member =>
    context.violation code name .error [member.range]
      ("method " ++ member.name ++ " of " ++ owner.name)
  | .call owner call =>
    context.violation code name .error [call.range] ("call " ++ call.name ++ " in " ++ owner.name)

instance : LintRule Probe where
  name _ := name
  code _ := code
  description _ := ""
  severity _ := .error
  interests := interests
  configure := Setting.configure name []
  check _ context node := [report context node]

end Probe

end DeclLint
