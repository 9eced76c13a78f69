import DeclLint.Proofs.Snapshot.Expr

/-!
# Snapshots are lossless

A unit, a fix or a result is read back from its snapshot, also when fields with their default value
are left out of it and unknown fields are added, at any depth. The only condition is that the
numbers fit a machine word of 64 bits.
-/

namespace DeclLint

open Snapshot

/-! ### Declarations and units -/

/-- The numbers of the parameter fit a machine word. -/
structure Parameter.WordSized (parameter : Parameter) : Prop where
  typeRef : parameter.typeRef.WordSized
  annotations : ∀ use ∈ parameter.annotations, use.WordSized
  defaultValue : ∀ expr ∈ parameter.defaultValue, expr.WordSized
  range : ∀ range ∈ parameter.range, range.WordSized

/-- The numbers of the member fit a machine word. -/
structure Member.WordSized (member : Member) : Prop where
  annotations : ∀ use ∈ member.annotations, use.WordSized
  parameters : ∀ parameter ∈ member.parameters, parameter.WordSized
  parameterList : ∀ range ∈ member.parameterList, range.WordSized
  receiver : ∀ type ∈ member.receiver, type.WordSized
  declaredType : ∀ type ∈ member.declaredType, type.WordSized
  body : ∀ statements ∈ member.body, ∀ statement ∈ statements, statement.WordSized
  delegation : ∀ call ∈ member.delegation, call.WordSized
  range : ∀ range ∈ member.range, range.WordSized
  nameRange : ∀ range ∈ member.nameRange, range.WordSized

/-- The numbers of the supertype entry fit a machine word. -/
structure SuperTypeEntry.WordSized (entry : SuperTypeEntry) : Prop where
  typeRef : entry.typeRef.WordSized
  call : ∀ call ∈ entry.call, call.WordSized
  range : ∀ range ∈ entry.range, range.WordSized

/-- The numbers of the body fit a machine word. -/
def DeclarationBody.WordSized (body : DeclarationBody) : Prop :=
  ∀ range ∈ body.openBrace, range.WordSized

/-- The numbers of the declaration fit a machine word. -/
structure Declaration.WordSized (declaration : Declaration) : Prop where
  annotations : ∀ use ∈ declaration.annotations, use.WordSized
  supertypes : ∀ entry ∈ declaration.supertypes, entry.WordSized
  members : ∀ member ∈ declaration.members, member.WordSized
  range : ∀ range ∈ declaration.range, range.WordSized
  nameRange : ∀ range ∈ declaration.nameRange, range.WordSized
  body : ∀ body ∈ declaration.body, body.WordSized

/-- The numbers of the unit fit a machine word. -/
def CompilationUnit.WordSized (unit : CompilationUnit) : Prop :=
  ∀ declaration ∈ unit.declarations, declaration.WordSized

/-- **Parameters are read back.** The proof goes through the fields in the order in which the reader
does, and so do the others of this kind. -/
theorem Parameter.reads {parameter : Parameter} (h : parameter.WordSized) :
    Reads Parameter.form Parameter.ofJson? parameter parameter.toJson := by
  intro given hgiven
  obtain ⟨givens, rfl, hopened⟩ := hgiven.opened (by decide) (by simp)
  refine read_bind rfl ?_
  refine read_bind (hopened.required "name" (by simp) (by simp) (reads_string parameter.name)) ?_
  refine read_bind (hopened.required "type_ref" (by simp) (by simp) (TypeRef.reads h.typeRef)) ?_
  refine read_bind (hopened.listD "annotations" (by simp) (by simp)
    fun use huse => Annotation.reads (h.annotations use huse)) ?_
  refine read_bind (hopened.optional "default_value" (by simp) (by simp)
    (fun expr hexpr => Expr.reads (h.defaultValue expr hexpr)) (Expr.read?_null false)) ?_
  refine read_bind (hopened.range "range" (by simp) (by simp) h.range) ?_
  rfl

theorem MemberKind.reads (kind : MemberKind) :
    Reads .plain (Json.oneOf? MemberKind.ofWord?) kind (.string kind.word) := by
  apply Reads.plain
  cases kind <;> rfl

/-- **Members are read back**, with their parameters, their bodies and the calls they delegate
to. -/
theorem Member.reads {member : Member} (h : member.WordSized) :
    Reads Member.form Member.ofJson? member member.toJson := by
  intro given hgiven
  obtain ⟨givens, rfl, hopened⟩ := hgiven.opened (by decide) (by simp)
  refine read_bind rfl ?_
  refine read_bind (hopened.required "kind" (by simp) (by simp) member.kind.reads) ?_
  refine read_bind (hopened.required "name" (by simp) (by simp) (reads_string member.name)) ?_
  refine read_bind (hopened.listD "annotations" (by simp) (by simp)
    fun use huse => Annotation.reads (h.annotations use huse)) ?_
  refine read_bind (hopened.listD "parameters" (by simp) (by simp)
    fun parameter hparameter => Parameter.reads (h.parameters parameter hparameter)) ?_
  refine read_bind (hopened.range "parameter_list" (by simp) (by simp) h.parameterList) ?_
  refine read_bind (hopened.typeRef "receiver" (by simp) (by simp) h.receiver) ?_
  refine read_bind (hopened.typeRef "declared_type" (by simp) (by simp) h.declaredType) ?_
  refine read_bind (hopened.optional "body" (by simp) (by simp)
    (fun body hbody => Reads.list fun expr hexpr => Expr.reads (h.body body hbody expr hexpr))
    rfl) ?_
  refine read_bind (hopened.optional "delegation" (by simp) (by simp)
    (fun call hcall => Call.reads (h.delegation call hcall)) rfl) ?_
  refine read_bind (hopened.withDefault "synthetic_continuation" (by simp) (by simp)
    (reads_bool member.syntheticContinuation) (reads_bool false)) ?_
  refine read_bind (hopened.range "range" (by simp) (by simp) h.range) ?_
  refine read_bind (hopened.range "name_range" (by simp) (by simp) h.nameRange) ?_
  rfl

/-- An entry of a supertype list is read back, with the constructor call it may make. -/
theorem SuperTypeEntry.reads {entry : SuperTypeEntry} (h : entry.WordSized) :
    Reads SuperTypeEntry.form SuperTypeEntry.ofJson? entry entry.toJson := by
  intro given hgiven
  obtain ⟨givens, rfl, hopened⟩ := hgiven.opened (by decide) (by simp)
  refine read_bind rfl ?_
  refine read_bind (hopened.required "type_ref" (by simp) (by simp) (TypeRef.reads h.typeRef)) ?_
  refine read_bind (hopened.optional "call" (by simp) (by simp)
    (fun call hcall => Call.reads (h.call call hcall)) rfl) ?_
  refine read_bind (hopened.range "range" (by simp) (by simp) h.range) ?_
  rfl

theorem DeclarationBody.reads {body : DeclarationBody} (h : body.WordSized) :
    Reads DeclarationBody.form DeclarationBody.ofJson? body body.toJson := by
  intro given hgiven
  obtain ⟨givens, rfl, hopened⟩ := hgiven.opened (by decide) (by simp)
  refine read_bind rfl ?_
  refine read_bind (hopened.range "open_brace" (by simp) (by simp) h) ?_
  rfl

/-- The words for kinds are different, so a kind is read back from its word. -/
theorem DeclarationKind.reads (kind : DeclarationKind) :
    Reads .plain (Json.oneOf? DeclarationKind.ofWord?) kind (.string kind.word) := by
  apply Reads.plain
  cases kind <;> rfl

theorem Origin.reads (origin : Origin) :
    Reads .plain (Json.oneOf? Origin.ofWord?) origin (.string origin.word) := by
  apply Reads.plain
  cases origin <;> rfl

/-- **Declarations are read back**, with all that they hold: annotations, supertypes, members and
places. -/
theorem Declaration.reads {declaration : Declaration} (h : declaration.WordSized) :
    Reads Declaration.form Declaration.ofJson? declaration declaration.toJson := by
  intro given hgiven
  obtain ⟨givens, rfl, hopened⟩ := hgiven.opened (by decide) (by simp)
  refine read_bind rfl ?_
  refine read_bind (hopened.required "qualified_name" (by simp) (by simp)
    (reads_string declaration.qualifiedName)) ?_
  refine read_bind (hopened.required "name" (by simp) (by simp) (reads_string declaration.name)) ?_
  refine read_bind (hopened.withDefault "package" (by simp) (by simp)
    (reads_string declaration.package) (reads_string "")) ?_
  refine read_bind (hopened.required "kind" (by simp) (by simp) declaration.kind.reads) ?_
  refine read_bind (hopened.withDefault "origin" (by simp [Origin.word]) (by simp)
    declaration.origin.reads Origin.source.reads) ?_
  refine read_bind (hopened.listD "annotations" (by simp) (by simp)
    fun use huse => Annotation.reads (h.annotations use huse)) ?_
  refine read_bind (hopened.listD "supertypes" (by simp) (by simp)
    fun entry hentry => SuperTypeEntry.reads (h.supertypes entry hentry)) ?_
  refine read_bind (hopened.listD "members" (by simp) (by simp)
    fun member hmember => Member.reads (h.members member hmember)) ?_
  refine read_bind (hopened.withDefault "module_path" (by simp) (by simp)
    (reads_string declaration.modulePath.text) (reads_string "")) ?_
  refine read_bind (hopened.range "range" (by simp) (by simp) h.range) ?_
  refine read_bind (hopened.range "name_range" (by simp) (by simp) h.nameRange) ?_
  refine read_bind (hopened.optional "body" (by simp) (by simp)
    (fun body hbody => DeclarationBody.reads (h.body body hbody)) rfl) ?_
  rfl

/-- **Units are read back**, with the text of the file if it is at hand. It is left out of the
snapshot if not. -/
theorem CompilationUnit.reads {unit : CompilationUnit} (h : unit.WordSized) :
    Reads CompilationUnit.form CompilationUnit.ofJson? unit unit.toJson := by
  intro given hgiven
  obtain ⟨givens, rfl, hopened⟩ := hgiven.opened (by decide) (by cases unit.source <;> simp)
  refine read_bind rfl ?_
  refine read_bind (hopened.required "path" (by simp) (by simp) (reads_string unit.path.text)) ?_
  refine read_bind (hopened.listD "declarations" (by simp) (by simp)
    fun declaration hdeclaration => Declaration.reads (h declaration hdeclaration)) ?_
  refine read_bind (hopened.optional_of_skipped "source" (by simp)
    (fun text (htext : text ∈ unit.source) => by simp [Option.mem_def.1 htext])
    (fun hnone => by simp [hnone]) (fun text _ => reads_string text) rfl) ?_
  rfl

/-! ### Fixes and results -/

/-- The numbers of the edit fit a machine word. -/
structure TextEdit.WordSized (edit : TextEdit) : Prop where
  start : edit.start < Text.wordSize
  stop : edit.stop < Text.wordSize

/-- The numbers of the fix fit a machine word. -/
def Fix.WordSized (fix : Fix) : Prop := ∀ edit ∈ fix.edits, edit.WordSized

/-- The numbers of the location fit a machine word. -/
structure Location.WordSized (location : Location) : Prop where
  line : location.line < Text.wordSize
  column : location.column < Text.wordSize
  offset : location.offset < Text.wordSize
  length : location.length < Text.wordSize

/-- The numbers of the suggestion fit a machine word. -/
def Suggestion.WordSized (suggestion : Suggestion) : Prop := ∀ fix ∈ suggestion.fix, fix.WordSized

/-- The numbers of the violation fit a machine word. -/
structure Violation.WordSized (violation : Violation) : Prop where
  location : violation.location.WordSized
  suggestion : ∀ suggestion ∈ violation.suggestion, suggestion.WordSized
  labels : ∀ label ∈ violation.labels, label.location.WordSized

/-- The numbers of the result fit a machine word. -/
structure LintResult.WordSized (result : LintResult) : Prop where
  violations : ∀ violation ∈ result.violations, violation.WordSized
  unitsChecked : result.unitsChecked < Text.wordSize

theorem TextEdit.reads {edit : TextEdit} (h : edit.WordSized) :
    Reads TextEdit.form TextEdit.ofJson? edit edit.toJson := by
  intro given hgiven
  obtain ⟨givens, rfl, hopened⟩ := hgiven.opened (by decide) (by simp)
  refine read_bind rfl ?_
  refine read_bind (hopened.required "start" (by simp) (by simp) (reads_word h.start)) ?_
  refine read_bind (hopened.required "end" (by simp) (by simp) (reads_word h.stop)) ?_
  refine read_bind (hopened.required "replacement" (by simp) (by simp)
    (reads_string edit.replacement)) ?_
  rfl

/-- Fixes are read back, with their edits in the order in which they are listed. -/
theorem Fix.reads {fix : Fix} (h : fix.WordSized) : Reads Fix.form Fix.ofJson? fix fix.toJson := by
  intro given hgiven
  obtain ⟨givens, rfl, hopened⟩ := hgiven.opened (by decide) (by simp)
  refine read_bind rfl ?_
  refine read_bind (hopened.required "title" (by simp) (by simp) (reads_string fix.title)) ?_
  refine read_bind (hopened.required "edits" (by simp) (by simp)
    (Reads.list fun edit hedit => TextEdit.reads (h edit hedit))) ?_
  rfl

/-- Locations are read back. All their fields are required, so that none may be left out. -/
theorem Location.reads {location : Location} (h : location.WordSized) :
    Reads Location.form Location.ofJson? location location.toJson := by
  intro given hgiven
  obtain ⟨givens, rfl, hopened⟩ := hgiven.opened (by decide) (by simp)
  refine read_bind rfl ?_
  refine read_bind
    (hopened.required "file" (by simp) (by simp) (reads_string location.file.text)) ?_
  refine read_bind (hopened.required "line" (by simp) (by simp) (reads_word h.line)) ?_
  refine read_bind (hopened.required "column" (by simp) (by simp) (reads_word h.column)) ?_
  refine read_bind (hopened.required "offset" (by simp) (by simp) (reads_word h.offset)) ?_
  refine read_bind (hopened.required "length" (by simp) (by simp) (reads_word h.length)) ?_
  rfl

theorem Label.reads {label : Label} (h : label.location.WordSized) :
    Reads Label.form Label.ofJson? label label.toJson := by
  intro given hgiven
  obtain ⟨givens, rfl, hopened⟩ := hgiven.opened (by decide) (by simp)
  refine read_bind rfl ?_
  refine read_bind (hopened.required "location" (by simp) (by simp) (Location.reads h)) ?_
  refine read_bind (hopened.required "message" (by simp) (by simp) (reads_string label.message)) ?_
  rfl

theorem Suggestion.reads {suggestion : Suggestion} (h : suggestion.WordSized) :
    Reads Suggestion.form Suggestion.ofJson? suggestion suggestion.toJson := by
  intro given hgiven
  obtain ⟨givens, rfl, hopened⟩ := hgiven.opened (by decide) (by simp)
  refine read_bind rfl ?_
  refine read_bind (hopened.required "message" (by simp) (by simp)
    (reads_string suggestion.message)) ?_
  refine read_bind (hopened.optional "fix" (by simp) (by simp)
    (fun fix hfix => Fix.reads (h fix hfix)) rfl) ?_
  rfl

theorem Severity.reads (severity : Severity) :
    Reads .plain Severity.ofJson? severity severity.toJson := by
  apply Reads.plain
  cases severity <;> rfl

/-- **Findings are read back**, with labels, suggestions and the fix they may offer. -/
theorem Violation.reads {violation : Violation} (h : violation.WordSized) :
    Reads Violation.form Violation.ofJson? violation violation.toJson := by
  intro given hgiven
  obtain ⟨givens, rfl, hopened⟩ :=
    hgiven.opened (by decide) (by cases violation.labels <;> simp)
  refine read_bind rfl ?_
  refine read_bind (hopened.required "code" (by simp) (by simp) (reads_string violation.code)) ?_
  refine read_bind (hopened.required "rule" (by simp) (by simp) (reads_string violation.rule)) ?_
  refine read_bind (hopened.required "severity" (by simp) (by simp) violation.severity.reads) ?_
  refine read_bind (hopened.required "location" (by simp) (by simp) (Location.reads h.location)) ?_
  refine read_bind (hopened.required "message" (by simp) (by simp)
    (reads_string violation.message)) ?_
  refine read_bind (hopened.optional "suggestion" (by simp) (by simp)
    (fun suggestion hmem => Suggestion.reads (h.suggestion suggestion hmem)) rfl) ?_
  refine read_bind (hopened.listD_of_skipped "labels" (by simp)
    (fun hlabels => by simp [hlabels]) (fun hempty => by simp [hempty])
    fun label hlabel => Label.reads (h.labels label hlabel)) ?_
  rfl

/-- **Results are read back**: the findings in their order, and the number of units. -/
theorem LintResult.reads {result : LintResult} (h : result.WordSized) :
    Reads LintResult.form LintResult.ofJson? result result.toJson := by
  intro given hgiven
  obtain ⟨givens, rfl, hopened⟩ := hgiven.opened (by decide) (by simp)
  refine read_bind rfl ?_
  refine read_bind (hopened.required "violations" (by simp) (by simp)
    (Reads.list fun violation hmem => Violation.reads (h.violations violation hmem))) ?_
  refine read_bind (hopened.required "units_checked" (by simp) (by simp)
    (reads_word h.unitsChecked)) ?_
  rfl

/-! ### The main result -/

namespace Snapshot

/-- Every value of the right size is read back from its snapshot, and from everything the snapshot
may be relaxed to. -/
def Lossless {α : Type} (form : Form) (write : α → Json) (read : Json → Option α)
    (sized : α → Prop) : Prop :=
  ∀ a, sized a → read (write a) = some a ∧
    ∀ given, Relaxed form (write a) given → read given = some a

/-- A snapshot is one of its own relaxed versions, so it is enough to read these. -/
theorem lossless_of_reads {α : Type} {form : Form} {write : α → Json} {read : Json → Option α}
    {sized : α → Prop} (h : ∀ a, sized a → Reads form read a (write a)) :
    Lossless form write read sized := by
  intro a ha
  exact ⟨(h a ha).read_eq, h a ha⟩

/-- Units, fixes and results are read back from their snapshots, whatever default fields are left
out of these and whatever unknown fields are added. -/
theorem units_fixes_results_lossless :
    Lossless CompilationUnit.form CompilationUnit.toJson CompilationUnit.ofJson?
      CompilationUnit.WordSized ∧
    Lossless Fix.form Fix.toJson Fix.ofJson? Fix.WordSized ∧
    Lossless LintResult.form LintResult.toJson LintResult.ofJson? LintResult.WordSized := by
  refine ⟨?_, ?_, ?_⟩
  · exact lossless_of_reads fun unit => CompilationUnit.reads
  · exact lossless_of_reads fun fix => Fix.reads
  · exact lossless_of_reads fun result => LintResult.reads

/-- An object with a member whose body is a lambda, written with the required fields only and with
unknown fields beside the path and in the lambda. -/
theorem reads_relaxed_lambda :
    CompilationUnit.ofJson? (.object [
      ("format", .nat 2),
      ("path", .string "A.kt"),
      ("declarations", .array [.object [
        ("qualified_name", .string "A"), ("name", .string "A"), ("kind", .string "object"),
        ("members", .array [.object [
          ("kind", .string "initializer"), ("name", .string "init"),
          ("body", .array [.object [
            ("node", .string "lambda"), ("note", .null),
            ("statements", .array [.object [
              ("node", .string "literal"), ("text", .string "1")]])]])]])]])]) =
    some {
      path := ⟨"A.kt"⟩
      declarations := [{
        qualifiedName := "A"
        name := "A"
        kind := .object
        members := [{
          kind := .initializer
          name := "init"
          body := some [.lambda [.literal "1" none none] none none] }] }] } := by
  have hliteral : Expr.WordSized (.literal "1" none none) := .literal (by simp) (by simp)
  have hlambda : Expr.WordSized (.lambda [.literal "1" none none] none none) :=
    .lambda (by simp [hliteral]) (by simp) (by simp)
  refine (units_fixes_results_lossless.1 _ ?_).2 _ ?_
  · intro declaration hdeclaration
    obtain rfl := List.mem_singleton.1 hdeclaration
    refine ⟨by simp, by simp, ?_, by simp, by simp, by simp⟩
    intro member hmember
    obtain rfl := List.mem_singleton.1 hmember
    exact ⟨by simp, by simp, by simp, by simp, by simp, by simp [hlambda], by simp, by simp,
      by simp⟩
  · have hliteral : Relaxed .expr (Expr.toJson (.literal "1" none none))
        (.object [("node", .string "literal"), ("text", .string "1")]) := by
      refine .expr rfl ?_
      refine .keep (.required "node" .plain) (by simp [Expr.fields]) .same ?_
      refine .keep (.required "text" .plain) (by simp [Expr.fields]) .same ?_
      refine .drop (.optional "static_type" TypeRef.form) (by simp [Expr.fields]) rfl ?_
      exact .drop (.optional "range" Range.form) (by simp [Expr.fields]) rfl .same
    have hlambda : Relaxed .expr (Expr.toJson (.lambda [.literal "1" none none] none none))
        (.object [("node", .string "lambda"), ("note", .null), ("statements", .array [.object [
          ("node", .string "literal"), ("text", .string "1")]])]) := by
      refine .expr rfl ?_
      refine .keep (.required "node" .plain) (by simp [Expr.fields]) .same ?_
      refine .add (by simp [Expr.fields, Field.required, Field.optional, Field.listed]) ?_
      refine .keep (.listed "statements" .expr) (by simp [Expr.fields])
        (.list (.cons hliteral .nil)) ?_
      refine .drop (.optional "static_type" TypeRef.form) (by simp [Expr.fields]) rfl ?_
      exact .drop (.optional "range" Range.form) (by simp [Expr.fields]) rfl .same
    refine .record (.add (by decide) ?_)
    refine .keep (.required "path" .plain) (by simp) .same ?_
    refine .keep (.listed "declarations" Declaration.form) (by simp) ?_ .same
    refine .list (.cons (.record ?_) .nil)
    refine .keep (.required "qualified_name" .plain) (by simp) .same ?_
    refine .keep (.required "name" .plain) (by simp) .same ?_
    refine .drop (.withDefault "package" (.string "")) (by simp) rfl ?_
    refine .keep (.required "kind" .plain) (by simp) .same ?_
    refine .drop (.withDefault "origin" (.string "source")) (by simp) rfl ?_
    refine .drop (.listed "annotations" Annotation.form) (by simp) rfl ?_
    refine .drop (.listed "supertypes" SuperTypeEntry.form) (by simp) rfl ?_
    refine .keep (.listed "members" Member.form) (by simp) (.list (.cons (.record ?_) .nil)) ?_
    · refine .keep (.required "kind" .plain) (by simp) .same ?_
      refine .keep (.required "name" .plain) (by simp) .same ?_
      refine .drop (.listed "annotations" Annotation.form) (by simp) rfl ?_
      refine .drop (.listed "parameters" Parameter.form) (by simp) rfl ?_
      refine .drop (.optional "parameter_list" Range.form) (by simp) rfl ?_
      refine .drop (.optional "receiver" TypeRef.form) (by simp) rfl ?_
      refine .drop (.optional "declared_type" TypeRef.form) (by simp) rfl ?_
      refine .keep (.optional "body" (.list .expr)) (by simp)
        (.nullable Json.noConfusion (.list (.cons hlambda .nil))) ?_
      refine .drop (.optional "delegation" Call.form) (by simp) rfl ?_
      refine .drop (.withDefault "synthetic_continuation" (.bool false)) (by simp) rfl ?_
      refine .drop (.optional "range" Range.form) (by simp) rfl ?_
      exact .drop (.optional "name_range" Range.form) (by simp) rfl .same
    · refine .drop (.withDefault "module_path" (.string "")) (by simp) rfl ?_
      refine .drop (.optional "range" Range.form) (by simp) rfl ?_
      refine .drop (.optional "name_range" Range.form) (by simp) rfl ?_
      exact .drop (.optional "body" DeclarationBody.form) (by simp) rfl .same

end Snapshot

end DeclLint
