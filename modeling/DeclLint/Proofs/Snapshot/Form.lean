import DeclLint.Snapshot.Declaration
import DeclLint.Snapshot.Finding

/-!
# The format of snapshots

A `Form` says what stands at a place of a snapshot: which fields a record has, and which of them may
be left out because a default value stands for them. Each type that travels in a snapshot has its
form.

`Relaxed form written given` says that `given` is the value `written` where, at any depth, fields
with their default value may be left out and fields that a record does not know may be added.
-/

namespace DeclLint

namespace Snapshot

mutual

/-- What stands at a place of a snapshot. -/
inductive Form where
  /-- a text, a number, a word or a truth value -/
  | plain
  /-- null, or a value of the given form -/
  | nullable (form : Form)
  /-- a list of values of the given form -/
  | list (form : Form)
  /-- a record with the given fields -/
  | record (fields : List Field)
  /-- an expression, which is a record whose fields depend on the kind of expression -/
  | expr

/-- A field of a record. -/
structure Field where
  /-- the name of the field -/
  name : String
  /-- the form of its value -/
  form : Form
  /-- what stands for the field when it is left out, if it may be -/
  default : Option Json

end

namespace Field

/-- A field that has to be there. -/
def required (name : String) (form : Form) : Field := ⟨name, form, none⟩

/-- A field for a value that may be absent. -/
def optional (name : String) (form : Form) : Field := ⟨name, .nullable form, some .null⟩

/-- A field for a list, the empty one by default. -/
def listed (name : String) (form : Form) : Field := ⟨name, .list form, some (.array [])⟩

/-- A field with another default value. -/
def withDefault (name : String) (value : Json) : Field := ⟨name, .plain, some value⟩

end Field

end Snapshot

open Snapshot

/-! ### The forms of code -/

/-- The form of a position. -/
def Position.form : Form := .record [
  .required "line" .plain, .required "column" .plain, .required "offset" .plain]

/-- The form of a range. -/
def Range.form : Form := .record [.required "start" Position.form, .required "end" Position.form]

/-- The form of an annotation. -/
def Annotation.form : Form := .record [
  .required "qualified_name" .plain, .optional "range" Range.form]

/-- The form of a type reference. -/
def TypeRef.form : Form := .record [
  .required "text" .plain, .optional "target" .plain, .optional "range" Range.form]

/-- The form of a member reference. -/
def MemberRef.form : Form := .record [
  .required "owner" .plain, .required "name" .plain, .withDefault "overload" (.nat 0)]

/-- The form of an argument. -/
def Argument.form : Form := .record [.required "value" .expr, .optional "parameter" .plain]

/-- The fields of a call. -/
def Call.fields : List Field := [
  .required "name" .plain, .optional "target" MemberRef.form,
  .withDefault "kind" (.string "regular"), .optional "receiver" .expr,
  .optional "receiver_type" TypeRef.form, .listed "arguments" Argument.form,
  .listed "type_arguments" TypeRef.form, .optional "static_type" TypeRef.form,
  .optional "range" Range.form, .optional "name_range" Range.form]

/-- The form of a call. -/
def Call.form : Form := .record Call.fields

/-- The fields of each kind of expression. -/
def Expr.fields (node : String) : List Field :=
  .required "node" .plain ::
    match node with
    | "call" => Call.fields
    | "lambda" => [
      .listed "statements" .expr, .optional "static_type" TypeRef.form,
      .optional "range" Range.form]
    | "reference" => [
      .required "name" .plain, .optional "target" MemberRef.form,
      .optional "static_type" TypeRef.form, .optional "range" Range.form]
    | "assign" => [
      .required "target" .expr, .required "value" .expr, .optional "range" Range.form]
    | "literal" => [
      .required "text" .plain, .optional "static_type" TypeRef.form, .optional "range" Range.form]
    | "other" => [
      .listed "children" .expr, .optional "static_type" TypeRef.form, .optional "range" Range.form]
    | _ => []

/-- The form of a parameter. -/
def Parameter.form : Form := .record [
  .required "name" .plain, .required "type_ref" TypeRef.form,
  .listed "annotations" Annotation.form, .optional "default_value" .expr,
  .optional "range" Range.form]

/-- The form of a member. -/
def Member.form : Form := .record [
  .required "kind" .plain, .required "name" .plain, .listed "annotations" Annotation.form,
  .listed "parameters" Parameter.form, .optional "parameter_list" Range.form,
  .optional "receiver" TypeRef.form, .optional "declared_type" TypeRef.form,
  .optional "body" (.list .expr), .optional "delegation" Call.form,
  .withDefault "synthetic_continuation" (.bool false), .optional "range" Range.form,
  .optional "name_range" Range.form]

/-- The form of a supertype entry. -/
def SuperTypeEntry.form : Form := .record [
  .required "type_ref" TypeRef.form, .optional "call" Call.form, .optional "range" Range.form]

/-- The form of a body. -/
def DeclarationBody.form : Form := .record [.optional "open_brace" Range.form]

/-- The form of a declaration. -/
def Declaration.form : Form := .record [
  .required "qualified_name" .plain, .required "name" .plain, .withDefault "package" (.string ""),
  .required "kind" .plain, .withDefault "origin" (.string "source"),
  .listed "annotations" Annotation.form, .listed "supertypes" SuperTypeEntry.form,
  .listed "members" Member.form, .withDefault "module_path" (.string ""),
  .optional "range" Range.form, .optional "name_range" Range.form,
  .optional "body" DeclarationBody.form]

/-- The form of a unit. -/
def CompilationUnit.form : Form := .record [
  .required "path" .plain, .listed "declarations" Declaration.form, .optional "source" .plain]

/-! ### The forms of fixes and findings -/

/-- The form of an edit. -/
def TextEdit.form : Form := .record [
  .required "start" .plain, .required "end" .plain, .required "replacement" .plain]

/-- The form of a fix. -/
def Fix.form : Form := .record [.required "title" .plain, .required "edits" (.list TextEdit.form)]

/-- The form of a location. -/
def Location.form : Form := .record [
  .required "file" .plain, .required "line" .plain, .required "column" .plain,
  .required "offset" .plain, .required "length" .plain]

/-- The form of a label. -/
def Label.form : Form := .record [
  .required "location" Location.form, .required "message" .plain]

/-- The form of a suggestion. -/
def Suggestion.form : Form := .record [.required "message" .plain, .optional "fix" Fix.form]

/-- The form of a violation. -/
def Violation.form : Form := .record [
  .required "code" .plain, .required "rule" .plain, .required "severity" .plain,
  .required "location" Location.form, .required "message" .plain,
  .optional "suggestion" Suggestion.form, .listed "labels" Label.form]

/-- The form of a result. -/
def LintResult.form : Form := .record [
  .required "violations" (.list Violation.form), .required "units_checked" .plain]

namespace Snapshot

/-! ### Relaxed snapshots -/

mutual

/-- `Relaxed form written given`: in the records of a value of the given form, some fields with
their default value are left out and some unknown fields are added. -/
inductive Relaxed : Form → Json → Json → Prop
  /-- nothing is changed -/
  | same {form : Form} {value : Json} : Relaxed form value value
  /-- a value that is there is relaxed -/
  | nullable {form : Form} {value given : Json} (present : value ≠ .null)
      (relaxed : Relaxed form value given) : Relaxed (.nullable form) value given
  /-- the items of a list are relaxed -/
  | list {form : Form} {items givens : List Json} (relaxed : RelaxedItems form items givens) :
      Relaxed (.list form) (.array items) (.array givens)
  /-- the fields of a record are relaxed -/
  | record {known : List Field} {fields givens : List (String × Json)}
      (relaxed : RelaxedFields known fields givens) :
      Relaxed (.record known) (.object fields) (.object givens)
  /-- the fields of an expression of some kind are relaxed -/
  | expr {node : String} {fields givens : List (String × Json)}
      (kind : fields.lookup "node" = some (.string node))
      (relaxed : RelaxedFields (Expr.fields node) fields givens) :
      Relaxed .expr (.object fields) (.object givens)

/-- Each item of a list is relaxed. -/
inductive RelaxedItems : Form → List Json → List Json → Prop
  /-- no items -/
  | nil {form : Form} : RelaxedItems form [] []
  /-- one more item -/
  | cons {form : Form} {item given : Json} {items givens : List Json}
      (head : Relaxed form item given) (tail : RelaxedItems form items givens) :
      RelaxedItems form (item :: items) (given :: givens)

/-- The fields of a record that knows the given ones are relaxed. -/
inductive RelaxedFields : List Field → List (String × Json) → List (String × Json) → Prop
  /-- nothing is changed -/
  | same {known : List Field} {fields : List (String × Json)} : RelaxedFields known fields fields
  /-- the value of a field is relaxed -/
  | keep {known : List Field} {value given : Json} {fields givens : List (String × Json)}
      (field : Field) (mem : field ∈ known)
      (head : Relaxed field.form value given) (tail : RelaxedFields known fields givens) :
      RelaxedFields known ((field.name, value) :: fields) ((field.name, given) :: givens)
  /-- a field with its default value is left out -/
  | drop {known : List Field} {value : Json} {fields givens : List (String × Json)} (field : Field)
      (mem : field ∈ known) (default : field.default = some value)
      (tail : RelaxedFields known fields givens) :
      RelaxedFields known ((field.name, value) :: fields) givens
  /-- an unknown field is added -/
  | add {known : List Field} {name : String} {value : Json} {fields givens : List (String × Json)}
      (unknown : ∀ field ∈ known, field.name ≠ name) (tail : RelaxedFields known fields givens) :
      RelaxedFields known fields ((name, value) :: givens)

end

end Snapshot

end DeclLint
