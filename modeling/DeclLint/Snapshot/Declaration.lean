import DeclLint.Snapshot.Expr

/-!
# Snapshots of declarations and units

The text of a unit is left out of its snapshot when it is not at hand; every other field is written.
-/

namespace DeclLint

namespace Parameter

/-- The snapshot of a parameter. -/
def toJson (parameter : Parameter) : Json := .object [
  ("name", .string parameter.name),
  ("type_ref", parameter.typeRef.toJson),
  ("annotations", .ofList Annotation.toJson parameter.annotations),
  ("default_value", .ofOption Expr.toJson parameter.defaultValue),
  ("range", .ofOption Range.toJson parameter.range)]

/-- Reads a parameter. -/
def ofJson? (json : Json) : Option Parameter := do
  let record ← json.record? ["name", "type_ref", "annotations", "default_value", "range"] 2
  let name ← record.required "name" fun json _ => json.string?
  let typeRef ← record.required "type_ref" fun json _ => TypeRef.ofJson? json
  let annotations ← record.listD "annotations" fun json _ => Annotation.ofJson? json
  let defaultValue ← record.optional "default_value" fun json _ => Expr.ofJson? json
  let range ← record.optional "range" fun json _ => Range.ofJson? json
  return { name, typeRef, annotations, defaultValue, range }

end Parameter

namespace Member

/-- The snapshot of a member. -/
def toJson (member : Member) : Json := .object [
  ("kind", .string member.kind.word),
  ("name", .string member.name),
  ("annotations", .ofList Annotation.toJson member.annotations),
  ("parameters", .ofList Parameter.toJson member.parameters),
  ("parameter_list", .ofOption Range.toJson member.parameterList),
  ("receiver", .ofOption TypeRef.toJson member.receiver),
  ("declared_type", .ofOption TypeRef.toJson member.declaredType),
  ("body", .ofOption (.ofList Expr.toJson) member.body),
  ("delegation", .ofOption Call.toJson member.delegation),
  ("synthetic_continuation", .bool member.syntheticContinuation),
  ("range", .ofOption Range.toJson member.range),
  ("name_range", .ofOption Range.toJson member.nameRange)]

/-- Reads a member. -/
def ofJson? (json : Json) : Option Member := do
  let record ← json.record? ["kind", "name", "annotations", "parameters", "parameter_list",
    "receiver", "declared_type", "body", "delegation", "synthetic_continuation", "range",
    "name_range"] 2
  let kind ← record.required "kind" fun json _ => json.oneOf? MemberKind.ofWord?
  let name ← record.required "name" fun json _ => json.string?
  let annotations ← record.listD "annotations" fun json _ => Annotation.ofJson? json
  let parameters ← record.listD "parameters" fun json _ => Parameter.ofJson? json
  let parameterList ← record.optional "parameter_list" fun json _ => Range.ofJson? json
  let receiver ← record.optional "receiver" fun json _ => TypeRef.ofJson? json
  let declaredType ← record.optional "declared_type" fun json _ => TypeRef.ofJson? json
  let body ← record.optional "body" fun json _ => json.list? fun json _ => Expr.ofJson? json
  let delegation ← record.optional "delegation" fun json _ => Call.ofJson? json
  let syntheticContinuation ←
    record.withDefault "synthetic_continuation" false fun json _ => json.bool?
  let range ← record.optional "range" fun json _ => Range.ofJson? json
  let nameRange ← record.optional "name_range" fun json _ => Range.ofJson? json
  return {
    kind, name, annotations, parameters, parameterList, receiver, declaredType, body, delegation,
    syntheticContinuation, range, nameRange }

end Member

namespace SuperTypeEntry

/-- The snapshot of a supertype entry. -/
def toJson (entry : SuperTypeEntry) : Json := .object [
  ("type_ref", entry.typeRef.toJson),
  ("call", .ofOption Call.toJson entry.call),
  ("range", .ofOption Range.toJson entry.range)]

/-- Reads a supertype entry. -/
def ofJson? (json : Json) : Option SuperTypeEntry := do
  let record ← json.record? ["type_ref", "call", "range"] 1
  let typeRef ← record.required "type_ref" fun json _ => TypeRef.ofJson? json
  let call ← record.optional "call" fun json _ => Call.ofJson? json
  let range ← record.optional "range" fun json _ => Range.ofJson? json
  return { typeRef, call, range }

end SuperTypeEntry

namespace DeclarationBody

/-- The snapshot of a body. -/
def toJson (body : DeclarationBody) : Json := .object [
  ("open_brace", .ofOption Range.toJson body.openBrace)]

/-- Reads a body. -/
def ofJson? (json : Json) : Option DeclarationBody := do
  let record ← json.record? ["open_brace"] 0
  let openBrace ← record.optional "open_brace" fun json _ => Range.ofJson? json
  return { openBrace }

end DeclarationBody

namespace Declaration

/-- The snapshot of a declaration. -/
def toJson (declaration : Declaration) : Json := .object [
  ("qualified_name", .string declaration.qualifiedName),
  ("name", .string declaration.name),
  ("package", .string declaration.package),
  ("kind", .string declaration.kind.word),
  ("origin", .string declaration.origin.word),
  ("annotations", .ofList Annotation.toJson declaration.annotations),
  ("supertypes", .ofList SuperTypeEntry.toJson declaration.supertypes),
  ("members", .ofList Member.toJson declaration.members),
  ("module_path", .string declaration.modulePath.text),
  ("range", .ofOption Range.toJson declaration.range),
  ("name_range", .ofOption Range.toJson declaration.nameRange),
  ("body", .ofOption DeclarationBody.toJson declaration.body)]

/-- Reads a declaration. -/
def ofJson? (json : Json) : Option Declaration := do
  let record ← json.record? ["qualified_name", "name", "package", "kind", "origin", "annotations",
    "supertypes", "members", "module_path", "range", "name_range", "body"] 4
  let qualifiedName ← record.required "qualified_name" fun json _ => json.string?
  let name ← record.required "name" fun json _ => json.string?
  let package ← record.withDefault "package" "" fun json _ => json.string?
  let kind ← record.required "kind" fun json _ => json.oneOf? DeclarationKind.ofWord?
  let origin ← record.withDefault "origin" .source fun json _ => json.oneOf? Origin.ofWord?
  let annotations ← record.listD "annotations" fun json _ => Annotation.ofJson? json
  let supertypes ← record.listD "supertypes" fun json _ => SuperTypeEntry.ofJson? json
  let members ← record.listD "members" fun json _ => Member.ofJson? json
  let modulePath ← record.withDefault "module_path" "" fun json _ => json.string?
  let range ← record.optional "range" fun json _ => Range.ofJson? json
  let nameRange ← record.optional "name_range" fun json _ => Range.ofJson? json
  let body ← record.optional "body" fun json _ => DeclarationBody.ofJson? json
  return {
    qualifiedName, name, package, kind, origin, annotations, supertypes, members,
    modulePath := ⟨modulePath⟩, range, nameRange, body }

end Declaration

namespace CompilationUnit

/-- The snapshot of a unit. -/
def toJson (unit : CompilationUnit) : Json := .object (
  [("path", .string unit.path.text),
    ("declarations", .ofList Declaration.toJson unit.declarations)] ++
  match unit.source with
  | none => []
  | some source => [("source", .string source)])

/-- Reads a unit. -/
def ofJson? (json : Json) : Option CompilationUnit := do
  let record ← json.record? ["path", "declarations", "source"] 1
  let path ← record.required "path" fun json _ => json.string?
  let declarations ← record.listD "declarations" fun json _ => Declaration.ofJson? json
  let source ← record.optional "source" fun json _ => json.string?
  return { path := ⟨path⟩, declarations, source }

end CompilationUnit

end DeclLint
