import DeclLint.Proofs.Snapshot.Reading

/-!
# Snapshots of expressions are lossless

An expression whose numbers fit a machine word is read back from everything its snapshot may be
relaxed to, and so are its parts. Inside an expression the reader takes more forms than at the top,
so the induction is over both ways of reading.
-/

namespace DeclLint

open Snapshot

/-! ### Positions and references -/

/-- The numbers of the position fit a machine word. -/
structure Position.WordSized (position : Position) : Prop where
  line : position.line < Text.wordSize
  column : position.column < Text.wordSize
  offset : position.offset < Text.wordSize

/-- The numbers of the range fit a machine word. -/
structure Range.WordSized (range : Range) : Prop where
  start : range.start.WordSized
  stop : range.stop.WordSized

/-- The numbers of the annotation fit a machine word. -/
def Annotation.WordSized (use : Annotation) : Prop := ∀ range ∈ use.range, range.WordSized

/-- The numbers of the type reference fit a machine word. -/
def TypeRef.WordSized (type : TypeRef) : Prop := ∀ range ∈ type.range, range.WordSized

/-- The number of the member reference fits a machine word. -/
def MemberRef.WordSized (reference : MemberRef) : Prop := reference.overload < Text.wordSize

theorem Position.reads {position : Position} (h : position.WordSized) :
    Reads Position.form Position.ofJson? position position.toJson := by
  intro given hgiven
  obtain ⟨givens, rfl, hopened⟩ := hgiven.opened (by decide) (by simp)
  -- the reader is followed from here on: first the record, then one step for each field
  refine read_bind rfl ?_
  refine read_bind (hopened.required "line" (by simp) (by simp) (reads_word h.line)) ?_
  refine read_bind (hopened.required "column" (by simp) (by simp) (reads_word h.column)) ?_
  refine read_bind (hopened.required "offset" (by simp) (by simp) (reads_word h.offset)) ?_
  rfl

/-- Ranges are read back, for line, column and offset at both ends are machine words. -/
theorem Range.reads {range : Range} (h : range.WordSized) :
    Reads Range.form Range.ofJson? range range.toJson := by
  intro given hgiven
  obtain ⟨givens, rfl, hopened⟩ := hgiven.opened (by decide) (by simp)
  refine read_bind rfl ?_
  refine read_bind (hopened.required "start" (by simp) (by simp) (Position.reads h.start)) ?_
  refine read_bind (hopened.required "end" (by simp) (by simp) (Position.reads h.stop)) ?_
  rfl

/-- A range that may be absent is read back. -/
theorem Snapshot.Opened.range {known : List Field} {fields : List (String × Json)} {bound : Nat}
    {record : Json.Record bound} (h : Opened known fields record) (name : String)
    {choice : Option Range} (hfield : Field.optional name Range.form ∈ known)
    (hvalue : (name, Json.ofOption Range.toJson choice) ∈ fields)
    (hsized : ∀ range ∈ choice, range.WordSized) :
    record.optional name (fun json _ => Range.ofJson? json) = some choice :=
  h.optional name hfield hvalue (fun range hrange => Range.reads (hsized range hrange)) rfl

theorem Annotation.reads {use : Annotation} (h : use.WordSized) :
    Reads Annotation.form Annotation.ofJson? use use.toJson := by
  intro given hgiven
  obtain ⟨givens, rfl, hopened⟩ := hgiven.opened (by decide) (by simp)
  refine read_bind rfl ?_
  refine read_bind (hopened.required "qualified_name" (by simp) (by simp)
    (reads_string use.qualifiedName)) ?_
  refine read_bind (hopened.range "range" (by simp) (by simp) h) ?_
  rfl

/-- Type references are read back, with the name they resolve to and without one where they do
not. -/
theorem TypeRef.reads {type : TypeRef} (h : type.WordSized) :
    Reads TypeRef.form TypeRef.ofJson? type type.toJson := by
  intro given hgiven
  obtain ⟨givens, rfl, hopened⟩ := hgiven.opened (by decide) (by simp)
  refine read_bind rfl ?_
  refine read_bind (hopened.required "text" (by simp) (by simp) (reads_string type.text)) ?_
  refine read_bind (hopened.optional "target" (by simp) (by simp)
    (fun name (_ : name ∈ type.target) => reads_string name) rfl) ?_
  refine read_bind (hopened.range "range" (by simp) (by simp) h) ?_
  rfl

/-- A type reference that may be absent is read back. -/
theorem Snapshot.Opened.typeRef {known : List Field} {fields : List (String × Json)} {bound : Nat}
    {record : Json.Record bound} (h : Opened known fields record) (name : String)
    {choice : Option TypeRef} (hfield : Field.optional name TypeRef.form ∈ known)
    (hvalue : (name, Json.ofOption TypeRef.toJson choice) ∈ fields)
    (hsized : ∀ type ∈ choice, type.WordSized) :
    record.optional name (fun json _ => TypeRef.ofJson? json) = some choice :=
  h.optional name hfield hvalue (fun type htype => TypeRef.reads (hsized type htype)) rfl

/-- References to members are read back. The number of the overload may be left out where it is
0. -/
theorem MemberRef.reads {reference : MemberRef} (h : reference.WordSized) :
    Reads MemberRef.form MemberRef.ofJson? reference reference.toJson := by
  intro given hgiven
  obtain ⟨givens, rfl, hopened⟩ := hgiven.opened (by decide) (by simp)
  refine read_bind rfl ?_
  refine read_bind (hopened.required "owner" (by simp) (by simp) (reads_string reference.owner)) ?_
  refine read_bind (hopened.required "name" (by simp) (by simp) (reads_string reference.name)) ?_
  refine read_bind (hopened.withDefault "overload" (by simp) (by simp) (reads_word h)
    (reads_word (by decide))) ?_
  rfl

/-! ### Calls and arguments -/

/-- The numbers of the call outside its receiver and its argument values fit a machine word. -/
structure Call.LeavesWordSized (call : Call) : Prop where
  target : ∀ reference ∈ call.target, reference.WordSized
  receiverType : ∀ type ∈ call.receiverType, type.WordSized
  parameters : ∀ argument ∈ call.arguments, ∀ parameter ∈ argument.parameter,
    parameter < Text.wordSize
  typeArguments : ∀ type ∈ call.typeArguments, type.WordSized
  staticType : ∀ type ∈ call.staticType, type.WordSized
  range : ∀ range ∈ call.range, range.WordSized
  nameRange : ∀ range ∈ call.nameRange, range.WordSized

/-- The numbers of the expression fit a machine word. -/
inductive Expr.WordSized : Expr → Prop
  /-- a call -/
  | call {call : Call} (leaves : call.LeavesWordSized)
      (receiver : ∀ expr ∈ call.receiver, Expr.WordSized expr)
      (arguments : ∀ argument ∈ call.arguments, Expr.WordSized argument.value) :
      Expr.WordSized (.call call)
  /-- a lambda -/
  | lambda {statements : List Expr} {staticType : Option TypeRef} {range : Option Range}
      (parts : ∀ expr ∈ statements, Expr.WordSized expr)
      (type : ∀ type ∈ staticType, type.WordSized) (place : ∀ place ∈ range, place.WordSized) :
      Expr.WordSized (.lambda statements staticType range)
  /-- a reference -/
  | reference {name : String} {target : Option MemberRef} {staticType : Option TypeRef}
      {range : Option Range} (member : ∀ reference ∈ target, reference.WordSized)
      (type : ∀ type ∈ staticType, type.WordSized) (place : ∀ place ∈ range, place.WordSized) :
      Expr.WordSized (.reference name target staticType range)
  /-- an assignment -/
  | assign {target value : Expr} {range : Option Range} (left : Expr.WordSized target)
      (right : Expr.WordSized value) (place : ∀ place ∈ range, place.WordSized) :
      Expr.WordSized (.assign target value range)
  /-- a literal -/
  | literal {text : String} {staticType : Option TypeRef} {range : Option Range}
      (type : ∀ type ∈ staticType, type.WordSized) (place : ∀ place ∈ range, place.WordSized) :
      Expr.WordSized (.literal text staticType range)
  /-- any other expression -/
  | other {children : List Expr} {staticType : Option TypeRef} {range : Option Range}
      (parts : ∀ expr ∈ children, Expr.WordSized expr)
      (type : ∀ type ∈ staticType, type.WordSized) (place : ∀ place ∈ range, place.WordSized) :
      Expr.WordSized (.other children staticType range)

/-- The numbers of the call fit a machine word. -/
def Call.WordSized (call : Call) : Prop := Expr.WordSized (.call call)

/-- Expressions are written by functions that recurse together. Those for optional ones and for
lists come to the general ones, and so do the two that follow. -/
theorem Expr.optionToJson_eq (choice : Option Expr) :
    Expr.optionToJson choice = .ofOption Expr.toJson choice := by
  cases choice <;> rfl

theorem Expr.listToJson_eq (exprs : List Expr) :
    .array (Expr.listToJson exprs) = Json.ofList Expr.toJson exprs := by
  induction exprs with
  | nil => rfl
  | cons expr exprs ih => simpa [Expr.listToJson, Json.ofList] using ih

theorem Argument.listToJson_eq (arguments : List Argument) :
    .array (Argument.listToJson arguments) = Json.ofList Argument.toJson arguments := by
  induction arguments with
  | nil => rfl
  | cons argument arguments ih => simpa [Argument.listToJson, Json.ofList] using ih

/-- The fields of a call, with the functions that recurse together replaced by the general ones. -/
theorem Call.jsonFields_eq (call : Call) : call.jsonFields = [
    ("name", .string call.name),
    ("target", .ofOption MemberRef.toJson call.target),
    ("kind", .string call.kind.word),
    ("receiver", .ofOption Expr.toJson call.receiver),
    ("receiver_type", .ofOption TypeRef.toJson call.receiverType),
    ("arguments", .ofList Argument.toJson call.arguments),
    ("type_arguments", .ofList TypeRef.toJson call.typeArguments),
    ("static_type", .ofOption TypeRef.toJson call.staticType),
    ("range", .ofOption Range.toJson call.range),
    ("name_range", .ofOption Range.toJson call.nameRange)] := by
  cases call
  simp only [Call.jsonFields, Expr.optionToJson_eq, Argument.listToJson_eq]

/-- **Arguments are read back** once their values are. What is known of the value comes from the
induction over expressions. -/
theorem Argument.reads {argument : Argument} {inside : Bool}
    (hvalue : Reads .expr (Expr.read? inside) argument.value argument.value.toJson)
    (hparameter : ∀ parameter ∈ argument.parameter, parameter < Text.wordSize) :
    Reads Argument.form (Argument.read? inside) argument argument.toJson := by
  intro given hgiven
  obtain ⟨value, parameter⟩ := argument
  rw [Argument.toJson] at hgiven
  obtain ⟨givens, rfl, hopened⟩ := hgiven.opened (by decide) (by simp)
  rw [Argument.read?]
  refine read_bind rfl ?_
  refine read_bind (hopened.required "value" (by simp) (by simp) hvalue) ?_
  refine read_bind (hopened.optional "parameter" (by simp) (by simp)
    (fun n hn => reads_word (hparameter n hn)) rfl) ?_
  rfl

/-- The kind of a call is read back. Inside an expression the reader takes more forms of the word,
but the one that is written means the same to both. -/
theorem CallKind.reads (kind : CallKind) (inside : Bool) :
    Reads .plain (fun json => if inside then json.oneOfOrEmpty? CallKind.ofWord?
      else json.oneOf? CallKind.ofWord?) kind (.string kind.word) := by
  apply Reads.plain
  cases kind <;> cases inside <;> rfl

/-- No expression is written as null, so null stands for an expression that is missing. -/
theorem Expr.read?_null (inside : Bool) : Expr.read? inside .null = none := by
  rw [Expr.read?]
  rfl

/-- **The fields of a call are read back** from a record that may have others as well: a call is
written alone, and also as an expression with its kind in front. -/
theorem Call.ofRecord?_eq_some {call : Call} (h : call.LeavesWordSized) {inside : Bool}
    (hreceiver : ∀ expr ∈ call.receiver, Reads .expr (Expr.read? inside) expr expr.toJson)
    (harguments : ∀ argument ∈ call.arguments,
      Reads .expr (Expr.read? inside) argument.value argument.value.toJson)
    {known : List Field} {fields : List (String × Json)} {bound : Nat} {record : Json.Record bound}
    (hopened : Opened known fields record) (hknown : Call.fields ⊆ known)
    (hfields : call.jsonFields ⊆ fields) : Call.ofRecord? inside record = some call := by
  rw [Call.jsonFields_eq] at hfields
  rw [Call.ofRecord?]
  refine read_bind (hopened.required "name" (hknown (by simp [Call.fields])) (hfields (by simp))
    (reads_string call.name)) ?_
  refine read_bind (hopened.optional "target" (hknown (by simp [Call.fields]))
    (hfields (by simp)) (fun t ht => MemberRef.reads (h.target t ht)) rfl) ?_
  refine read_bind (hopened.withDefault "kind" (hknown (by simp [Call.fields, CallKind.word]))
    (hfields (by simp)) (call.kind.reads inside) (CallKind.regular.reads inside)) ?_
  refine read_bind (hopened.optional "receiver" (hknown (by simp [Call.fields]))
    (hfields (by simp)) hreceiver (Expr.read?_null inside)) ?_
  refine read_bind (hopened.typeRef "receiver_type" (hknown (by simp [Call.fields]))
    (hfields (by simp)) h.receiverType) ?_
  refine read_bind (hopened.listD "arguments" (hknown (by simp [Call.fields]))
    (hfields (by simp)) fun a ha => Argument.reads (harguments a ha) (h.parameters a ha)) ?_
  refine read_bind (hopened.listD "type_arguments" (hknown (by simp [Call.fields]))
    (hfields (by simp)) fun t ht => TypeRef.reads (h.typeArguments t ht)) ?_
  refine read_bind (hopened.typeRef "static_type" (hknown (by simp [Call.fields]))
    (hfields (by simp)) h.staticType) ?_
  refine read_bind (hopened.range "range" (hknown (by simp [Call.fields])) (hfields (by simp))
    h.range) ?_
  refine read_bind (hopened.range "name_range" (hknown (by simp [Call.fields]))
    (hfields (by simp)) h.nameRange) ?_
  -- calls and expressions are defined together, and such records have no eta rule
  cases call
  rfl

/-! ### Expressions -/

/-- A relaxed expression is opened; it keeps its kind, and with it the list of the fields that are
known. -/
theorem Snapshot.Relaxed.openedExpr {node : String} {fields : List (String × Json)} {given : Json}
    (h : Relaxed .expr (.object (("node", .string node) :: fields)) given)
    (hknown : ((Expr.fields node).map (·.name)).Nodup)
    (hfields : ((("node", Json.string node) :: fields).map (·.1)).Nodup) :
    ∃ givens, given = .object givens ∧
      (∀ numbered, (Json.object givens).variant? "node" numbered Expr.shape =
        some (node, Json.Record.mk givens Json.sizeOf_field_lt)) ∧
      Opened (Expr.fields node) (("node", .string node) :: fields)
        (Json.Record.mk givens Json.sizeOf_field_lt) := by
  obtain ⟨givens, rfl, hgivens⟩ := h.exprFields List.lookup_cons_self
  refine ⟨givens, rfl, ?_, hknown, hfields, hgivens⟩
  intro numbered
  have hmem : Field.required "node" .plain ∈ Expr.fields node := List.mem_cons_self
  have hstands : Stands (.required "node" .plain) (some (.string node)) (givens.lookup "node") :=
    hgivens.stands hknown hmem hfields
  generalize hfound : givens.lookup "node" = found at hstands
  cases hstands with
  | relaxed hplain => simp [Json.variant?, hfound, hplain.eq_of_plain, Json.tagName?]
  | dropped hdefault => cases hdefault

/-- **An expression is read back**, inside another one and by itself. The induction is over the
parts of the expression, with one case for each kind. -/
theorem Expr.reads_read? {expr : Expr} (h : expr.WordSized) :
    ∀ inside, Reads .expr (Expr.read? inside) expr expr.toJson := by
  -- the parts of an expression stand inside it, however the expression itself is read
  induction h with
  | call leaves receiver arguments ihreceiver iharguments =>
    intro inside given hgiven
    rw [Expr.toJson] at hgiven
    obtain ⟨givens, rfl, hvariant, hopened⟩ :=
      hgiven.openedExpr (by decide) (by simp [Call.jsonFields_eq])
    have hcall := Call.ofRecord?_eq_some leaves (fun e he => ihreceiver e he true)
      (fun a ha => iharguments a ha true) hopened (List.subset_cons_self _ _)
      (List.subset_cons_self _ _)
    rw [Expr.read?]
    refine read_bind (hvariant _) ?_
    refine read_bind hcall ?_
    rfl
  | lambda parts type place ih =>
    intro inside given hgiven
    rw [Expr.toJson, Expr.listToJson_eq] at hgiven
    obtain ⟨givens, rfl, hvariant, hopened⟩ := hgiven.openedExpr (by decide) (by simp)
    rw [Expr.read?]
    refine read_bind (hvariant _) ?_
    refine read_bind (hopened.listD "statements" (by simp [Expr.fields]) (by simp)
      fun e he => ih e he true) ?_
    refine read_bind (hopened.typeRef "static_type" (by simp [Expr.fields]) (by simp) type) ?_
    refine read_bind (hopened.range "range" (by simp [Expr.fields]) (by simp) place) ?_
    rfl
  | @reference name target staticType range member type place =>
    intro inside given hgiven
    rw [Expr.toJson] at hgiven
    obtain ⟨givens, rfl, hvariant, hopened⟩ := hgiven.openedExpr (by decide) (by simp)
    rw [Expr.read?]
    refine read_bind (hvariant _) ?_
    refine read_bind (hopened.required "name" (by simp [Expr.fields]) (by simp)
      (reads_string name)) ?_
    refine read_bind (hopened.optional "target" (by simp [Expr.fields]) (by simp)
      (fun t ht => MemberRef.reads (member t ht)) rfl) ?_
    refine read_bind (hopened.typeRef "static_type" (by simp [Expr.fields]) (by simp) type) ?_
    refine read_bind (hopened.range "range" (by simp [Expr.fields]) (by simp) place) ?_
    rfl
  | assign left right place ihleft ihright =>
    intro inside given hgiven
    rw [Expr.toJson] at hgiven
    obtain ⟨givens, rfl, hvariant, hopened⟩ := hgiven.openedExpr (by decide) (by simp)
    rw [Expr.read?]
    refine read_bind (hvariant _) ?_
    refine read_bind (hopened.required "target" (by simp [Expr.fields]) (by simp) (ihleft true)) ?_
    refine read_bind (hopened.required "value" (by simp [Expr.fields]) (by simp) (ihright true)) ?_
    refine read_bind (hopened.range "range" (by simp [Expr.fields]) (by simp) place) ?_
    rfl
  | @literal text staticType range type place =>
    intro inside given hgiven
    rw [Expr.toJson] at hgiven
    obtain ⟨givens, rfl, hvariant, hopened⟩ := hgiven.openedExpr (by decide) (by simp)
    rw [Expr.read?]
    refine read_bind (hvariant _) ?_
    refine read_bind (hopened.required "text" (by simp [Expr.fields]) (by simp)
      (reads_string text)) ?_
    refine read_bind (hopened.typeRef "static_type" (by simp [Expr.fields]) (by simp) type) ?_
    refine read_bind (hopened.range "range" (by simp [Expr.fields]) (by simp) place) ?_
    rfl
  | other parts type place ih =>
    intro inside given hgiven
    rw [Expr.toJson, Expr.listToJson_eq] at hgiven
    obtain ⟨givens, rfl, hvariant, hopened⟩ := hgiven.openedExpr (by decide) (by simp)
    rw [Expr.read?]
    refine read_bind (hvariant _) ?_
    refine read_bind (hopened.listD "children" (by simp [Expr.fields]) (by simp)
      fun e he => ih e he true) ?_
    refine read_bind (hopened.typeRef "static_type" (by simp [Expr.fields]) (by simp) type) ?_
    refine read_bind (hopened.range "range" (by simp [Expr.fields]) (by simp) place) ?_
    rfl

theorem Expr.reads {expr : Expr} (h : expr.WordSized) :
    Reads .expr Expr.ofJson? expr expr.toJson :=
  Expr.reads_read? h false

/-- Calls are read back, alone as within expressions. -/
theorem Call.reads {call : Call} (h : call.WordSized) :
    Reads Call.form Call.ofJson? call call.toJson := by
  intro given hgiven
  obtain ⟨leaves, receiver, arguments⟩ := h
  obtain ⟨givens, rfl, hopened⟩ := hgiven.opened (by decide) (by simp [Call.jsonFields_eq])
  exact Call.ofRecord?_eq_some leaves (fun e he => Expr.reads (receiver e he))
    (fun a ha => Expr.reads (arguments a ha)) hopened (List.Subset.refl _) (List.Subset.refl _)

end DeclLint
