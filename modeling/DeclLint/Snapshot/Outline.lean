import DeclLint.Snapshot.Declaration
import DeclLint.Symbol.Oracle

/-!
# Outlines

Short views of nodes that say which node it is without its subterms.
-/

namespace DeclLint

/-- The outline of an expression: its kind and its name, its text or the number of its parts. -/
def Expr.outline : Expr → Json
  | .call c => .object [("node", .string "call"), ("name", .string c.name)]
  | .lambda statements _ _ =>
    .object [("node", .string "lambda"), ("statements", .nat statements.length)]
  | .reference name _ _ _ => .object [("node", .string "reference"), ("name", .string name)]
  | .assign .. => .object [("node", .string "assign")]
  | .literal text _ _ => .object [("node", .string "literal"), ("text", .string text)]
  | .other children _ _ =>
    .object [("node", .string "other"), ("children", .nat children.length)]

/-- The outline of a declaration. -/
def Declaration.outline (declaration : Declaration) : Json := .object [
  ("qualified_name", .string declaration.qualifiedName),
  ("kind", .string declaration.kind.word),
  ("origin", .string declaration.origin.word),
  ("module_path", .string declaration.modulePath.text),
  ("members", .nat declaration.members.length)]

/-- The outline of a resolved member. -/
def ResolvedMember.outline (resolved : ResolvedMember) : Json := .object [
  ("owner", .string resolved.owner.qualifiedName),
  ("name", .string resolved.member.name),
  ("kind", .string resolved.member.kind.word),
  ("parameters", .ofList (fun parameter => .string parameter.name) resolved.member.parameters)]

end DeclLint
