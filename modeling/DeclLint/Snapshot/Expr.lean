import DeclLint.Snapshot.Leaf

/-!
# Snapshots of expressions

An expression is a record with a field `node` that names the kind of expression; calls and arguments
are plain records.

Inside an expression the reader takes two more forms: the kind of an expression may be given by its
number, and the kind of a call may be an object that maps the word to the empty object.
-/

namespace DeclLint

mutual

/-- The fields of a call. -/
def Call.jsonFields : Call → List (String × Json)
  | ⟨name, target, kind, receiver, receiverType, arguments, typeArguments, staticType, range,
      nameRange⟩ => [
    ("name", .string name),
    ("target", .ofOption MemberRef.toJson target),
    ("kind", .string kind.word),
    ("receiver", Expr.optionToJson receiver),
    ("receiver_type", .ofOption TypeRef.toJson receiverType),
    ("arguments", .array (Argument.listToJson arguments)),
    ("type_arguments", .ofList TypeRef.toJson typeArguments),
    ("static_type", .ofOption TypeRef.toJson staticType),
    ("range", .ofOption Range.toJson range),
    ("name_range", .ofOption Range.toJson nameRange)]

/-- The snapshot of an argument. -/
def Argument.toJson : Argument → Json
  | ⟨value, parameter⟩ => .object [
    ("value", Expr.toJson value), ("parameter", .ofOption .nat parameter)]

/-- The snapshot of an expression. -/
def Expr.toJson : Expr → Json
  | .call c => .object (("node", .string "call") :: Call.jsonFields c)
  | .lambda statements staticType range => .object [
    ("node", .string "lambda"),
    ("statements", .array (Expr.listToJson statements)),
    ("static_type", .ofOption TypeRef.toJson staticType),
    ("range", .ofOption Range.toJson range)]
  | .reference name target staticType range => .object [
    ("node", .string "reference"),
    ("name", .string name),
    ("target", .ofOption MemberRef.toJson target),
    ("static_type", .ofOption TypeRef.toJson staticType),
    ("range", .ofOption Range.toJson range)]
  | .assign target value range => .object [
    ("node", .string "assign"),
    ("target", Expr.toJson target),
    ("value", Expr.toJson value),
    ("range", .ofOption Range.toJson range)]
  | .literal text staticType range => .object [
    ("node", .string "literal"),
    ("text", .string text),
    ("static_type", .ofOption TypeRef.toJson staticType),
    ("range", .ofOption Range.toJson range)]
  | .other children staticType range => .object [
    ("node", .string "other"),
    ("children", .array (Expr.listToJson children)),
    ("static_type", .ofOption TypeRef.toJson staticType),
    ("range", .ofOption Range.toJson range)]

/-- The snapshot of an expression that may be absent. -/
def Expr.optionToJson : Option Expr → Json
  | none => .null
  | some expr => expr.toJson

/-- The snapshots of a list of expressions. -/
def Expr.listToJson : List Expr → List Json
  | [] => []
  | expr :: rest => expr.toJson :: Expr.listToJson rest

/-- The snapshots of a list of arguments. -/
def Argument.listToJson : List Argument → List Json
  | [] => []
  | argument :: rest => argument.toJson :: Argument.listToJson rest

end

/-- The snapshot of a call. -/
def Call.toJson (call : Call) : Json := .object call.jsonFields

namespace Call

/-- The fields of a call, in order; only the first one has to be there. -/
def fieldNames : List String := ["name", "target", "kind", "receiver", "receiver_type", "arguments",
  "type_arguments", "static_type", "range", "name_range"]

end Call

namespace Expr

/-- The kinds of expressions, by number. -/
def kindNames : List String := ["call", "lambda", "reference", "assign", "literal", "other"]

/-- The fields of each kind of expression, and how many of them have to be there. -/
def shape : String → List String × Nat
  | "call" => (Call.fieldNames, 1)
  | "lambda" => (["statements", "static_type", "range"], 0)
  | "reference" => (["name", "target", "static_type", "range"], 1)
  | "assign" => (["target", "value", "range"], 2)
  | "literal" => (["text", "static_type", "range"], 1)
  | "other" => (["children", "static_type", "range"], 0)
  | _ => ([], 0)

end Expr

mutual

/-- Reads an expression, which stands `inside` another one or by itself. -/
def Expr.read? (inside : Bool) (json : Json) : Option Expr := do
  let numbered := if inside then Expr.kindNames else []
  let (node, record) ← json.variant? "node" numbered Expr.shape
  match node with
  | "call" => return .call (← Call.ofRecord? true record)
  | "lambda" =>
    let statements ← record.listD "statements" fun json _ => Expr.read? true json
    let staticType ← record.optional "static_type" fun json _ => TypeRef.ofJson? json
    let range ← record.optional "range" fun json _ => Range.ofJson? json
    return .lambda statements staticType range
  | "reference" =>
    let name ← record.required "name" fun json _ => json.string?
    let target ← record.optional "target" fun json _ => MemberRef.ofJson? json
    let staticType ← record.optional "static_type" fun json _ => TypeRef.ofJson? json
    let range ← record.optional "range" fun json _ => Range.ofJson? json
    return .reference name target staticType range
  | "assign" =>
    let target ← record.required "target" fun json _ => Expr.read? true json
    let value ← record.required "value" fun json _ => Expr.read? true json
    let range ← record.optional "range" fun json _ => Range.ofJson? json
    return .assign target value range
  | "literal" =>
    let text ← record.required "text" fun json _ => json.string?
    let staticType ← record.optional "static_type" fun json _ => TypeRef.ofJson? json
    let range ← record.optional "range" fun json _ => Range.ofJson? json
    return .literal text staticType range
  | "other" =>
    let children ← record.listD "children" fun json _ => Expr.read? true json
    let staticType ← record.optional "static_type" fun json _ => TypeRef.ofJson? json
    let range ← record.optional "range" fun json _ => Range.ofJson? json
    return .other children staticType range
  | _ => none
termination_by (sizeOf json, 1)
decreasing_by
  · exact Prod.Lex.right _ (by decide)
  all_goals exact Prod.Lex.left _ _ ‹_›

/-- Reads the fields of a call, which stands `inside` an expression or by itself. -/
def Call.ofRecord? (inside : Bool) {bound : Nat} (record : Json.Record bound) : Option Call := do
  let name ← record.required "name" fun json _ => json.string?
  let target ← record.optional "target" fun json _ => MemberRef.ofJson? json
  let kind ← record.withDefault "kind" .regular fun json _ =>
    if inside then json.oneOfOrEmpty? CallKind.ofWord? else json.oneOf? CallKind.ofWord?
  let receiver ← record.optional "receiver" fun json _ => Expr.read? inside json
  let receiverType ← record.optional "receiver_type" fun json _ => TypeRef.ofJson? json
  let arguments ← record.listD "arguments" fun json _ => Argument.read? inside json
  let typeArguments ← record.listD "type_arguments" fun json _ => TypeRef.ofJson? json
  let staticType ← record.optional "static_type" fun json _ => TypeRef.ofJson? json
  let range ← record.optional "range" fun json _ => Range.ofJson? json
  let nameRange ← record.optional "name_range" fun json _ => Range.ofJson? json
  return {
    name, target, kind, receiver, receiverType, arguments, typeArguments, staticType, range,
    nameRange }
termination_by (bound, 0)
decreasing_by all_goals exact Prod.Lex.left _ _ ‹_›

/-- Reads an argument of a call. -/
def Argument.read? (inside : Bool) (json : Json) : Option Argument := do
  let record ← json.record? ["value", "parameter"] 1
  let value ← record.required "value" fun json _ => Expr.read? inside json
  let parameter ← record.optional "parameter" fun json _ => json.word?
  return { value, parameter }
termination_by (sizeOf json, 1)
decreasing_by exact Prod.Lex.left _ _ ‹_›

end

/-- Reads an expression. -/
def Expr.ofJson? (json : Json) : Option Expr := Expr.read? false json

/-- Reads an argument. -/
def Argument.ofJson? (json : Json) : Option Argument := Argument.read? false json

/-- Reads a call. -/
def Call.ofJson? (json : Json) : Option Call := do
  Call.ofRecord? false (← json.record? Call.fieldNames 1)

end DeclLint
