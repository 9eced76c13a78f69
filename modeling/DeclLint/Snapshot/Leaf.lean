import DeclLint.Code.Declaration
import DeclLint.Json.Basic

/-!
# Snapshots of positions, references and words

Each type that travels in a snapshot has an encoder `toJson` and a decoder `ofJson?`. The encoder
writes every field. The decoder wants the fields without a default, ignores fields it does not know,
and takes a missing field, or a null where a value is optional, for the default.

This module has the parts without sub-expressions.
-/

namespace DeclLint

namespace Position

/-- The snapshot of a position. -/
def toJson (position : Position) : Json := .object [
  ("line", .nat position.line), ("column", .nat position.column), ("offset", .nat position.offset)]

/-- Reads a position. -/
def ofJson? (json : Json) : Option Position := do
  let record ← json.record? ["line", "column", "offset"] 3
  let line ← record.required "line" fun json _ => json.word?
  let column ← record.required "column" fun json _ => json.word?
  let offset ← record.required "offset" fun json _ => json.word?
  return { line, column, offset }

end Position

namespace Range

/-- The snapshot of a range. -/
def toJson (range : Range) : Json := .object [
  ("start", range.start.toJson), ("end", range.stop.toJson)]

/-- Reads a range. -/
def ofJson? (json : Json) : Option Range := do
  let record ← json.record? ["start", "end"] 2
  let start ← record.required "start" fun json _ => Position.ofJson? json
  let stop ← record.required "end" fun json _ => Position.ofJson? json
  return { start, stop }

end Range

namespace Annotation

/-- The snapshot of an annotation. -/
def toJson (use : Annotation) : Json := .object [
  ("qualified_name", .string use.qualifiedName),
  ("range", .ofOption Range.toJson use.range)]

/-- Reads an annotation. -/
def ofJson? (json : Json) : Option Annotation := do
  let record ← json.record? ["qualified_name", "range"] 1
  let qualifiedName ← record.required "qualified_name" fun json _ => json.string?
  let range ← record.optional "range" fun json _ => Range.ofJson? json
  return { qualifiedName, range }

end Annotation

namespace TypeRef

/-- The snapshot of a type reference. -/
def toJson (type : TypeRef) : Json := .object [
  ("text", .string type.text),
  ("target", .ofOption .string type.target),
  ("range", .ofOption Range.toJson type.range)]

/-- Reads a type reference. -/
def ofJson? (json : Json) : Option TypeRef := do
  let record ← json.record? ["text", "target", "range"] 1
  let text ← record.required "text" fun json _ => json.string?
  let target ← record.optional "target" fun json _ => json.string?
  let range ← record.optional "range" fun json _ => Range.ofJson? json
  return { text, target, range }

end TypeRef

namespace MemberRef

/-- The snapshot of a member reference. -/
def toJson (reference : MemberRef) : Json := .object [
  ("owner", .string reference.owner),
  ("name", .string reference.name),
  ("overload", .nat reference.overload)]

/-- Reads a member reference. -/
def ofJson? (json : Json) : Option MemberRef := do
  let record ← json.record? ["owner", "name", "overload"] 2
  let owner ← record.required "owner" fun json _ => json.string?
  let name ← record.required "name" fun json _ => json.string?
  let overload ← record.withDefault "overload" 0 fun json _ => json.word?
  return { owner, name, overload }

end MemberRef

namespace CallKind

/-- The word for a kind of call. -/
def word : CallKind → String
  | regular => "regular"
  | superConstructor => "super_constructor"
  | delegatingConstructor => "delegating_constructor"

/-- The kind of call a word stands for. -/
def ofWord? : String → Option CallKind
  | "regular" => some regular
  | "super_constructor" => some superConstructor
  | "delegating_constructor" => some delegatingConstructor
  | _ => none

end CallKind

namespace MemberKind

/-- The word for a kind of member. -/
def word : MemberKind → String
  | field => "field"
  | constructor => "constructor"
  | method => "method"
  | initializer => "initializer"

/-- The kind of member a word stands for. -/
def ofWord? : String → Option MemberKind
  | "field" => some field
  | "constructor" => some constructor
  | "method" => some method
  | "initializer" => some initializer
  | _ => none

end MemberKind

namespace DeclarationKind

/-- The word for a kind of declaration. -/
def word : DeclarationKind → String
  | classType => "class"
  | interface => "interface"
  | object => "object"
  | facade => "facade"

/-- The kind of declaration a word stands for. -/
def ofWord? : String → Option DeclarationKind
  | "class" => some classType
  | "interface" => some interface
  | "object" => some object
  | "facade" => some facade
  | _ => none

end DeclarationKind

namespace Origin

/-- The word for an origin. -/
def word : Origin → String
  | source => "source"
  | compiled => "compiled"

/-- The origin a word stands for. -/
def ofWord? : String → Option Origin
  | "source" => some source
  | "compiled" => some compiled
  | _ => none

end Origin

end DeclLint
