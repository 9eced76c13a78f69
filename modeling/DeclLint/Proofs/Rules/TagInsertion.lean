import DeclLint.Proofs.Edit.ListItems
import DeclLint.Proofs.Edit.OneEdit
import DeclLint.Rules.RequiredTag
import DeclLint.Symbol.Table

/-!
# An inserted tag is the last parameter

The fix for a missing tag takes its place from the ranges on record: right behind the last
parameter, or right behind the bracket when there is none. Where these ranges are those of the text
(`Member.StandsIn`), this is the place of a new item, and the text inserted there is laid out for a
list with or without items as the list is (`RequiredTag.exists_insertionPoint_eq`). So the parameter
list is read as before, with the tag behind the other parameters
(`RequiredTag.insertTagFix_appends_item`).
-/

namespace DeclLint

open Layout

/-! ### White space from the text -/

/-- An indent is white space, whether it is read off the text or made up from the column. -/
theorem UnitContext.isBlank_indentOf (context : UnitContext) (range : Range) :
    Text.isBlank (context.indentOf range) = true := by
  rw [Text.isBlank_iff, indentOf]
  split
  · intro c hc
    rw [String.toList_ofList] at hc
    have htaken := List.mem_takeWhile_imp hc
    rw [Bool.or_eq_true, beq_iff_eq, beq_iff_eq] at htaken
    rcases htaken with rfl | rfl <;> decide
  · intro c hc
    rw [String.toList_ofList] at hc
    obtain rfl := List.eq_of_mem_replicate hc
    decide

theorem Layout.isBlank_indentStep (outer : String) : Text.isBlank (indentStep outer) = true := by
  rw [indentStep]
  split <;> decide

/-! ### Parameter lists in a text -/

/-- Where a range begins and ends in the text. -/
def Range.span (range : Range) : Nat × Nat := (range.start.offset, range.stop.offset)

/-- The parameter list of a member stands in the text, with `body` between its brackets, and the
ranges on record are those of the text: the list begins with its bracket, and each parameter that
was written has the range of its item. -/
structure Member.StandsIn (member : Member) (source before : String) (body : ListBody)
    (after : String) : Prop where
  /-- the text -/
  text : source = before ++ "(" ++ body.text ++ ")" ++ after
  /-- the length of the text is a machine word -/
  size : source.utf8ByteSize < Text.wordSize
  /-- the list begins with its bracket -/
  list : ∃ range, member.parameterList = some range ∧ range.start.offset = before.utf8ByteSize
  /-- the written parameters are the items -/
  parameters : member.userParameters.map (·.range.map Range.span) =
    (body.spans (before ++ "(").utf8ByteSize).map some

namespace Member.StandsIn

variable {member : Member} {source before after : String} {body : ListBody}

/-- The last parameter of a list in the text ends where a new item goes. Its range is on record, as
the list is. -/
theorem exists_last {front : List Slot} {last : Slot} {trailing : Option Text.Blank}
    (h : member.StandsIn source before (.filled front last trailing) after) :
    ∃ parameter range, member.userParameters.getLast? = some parameter ∧
      parameter.range = some range ∧ range.stop.offset =
        (before ++ "(" ++ (ListBody.filled front last trailing).head).utf8ByteSize := by
  obtain ⟨start, hend⟩ :=
    ListBody.exists_getLast?_spans (before ++ "(").utf8ByteSize front last trailing
  have hlast := List.getLast?_map (f := fun parameter => parameter.range.map Range.span)
    (l := member.userParameters)
  rw [h.parameters, List.getLast?_map, hend, Option.map_some] at hlast
  obtain ⟨parameter, hparameter, hspan⟩ := Option.map_eq_some_iff.1 hlast.symm
  obtain ⟨range, hrange, hspan⟩ := Option.map_eq_some_iff.1 hspan
  refine ⟨parameter, range, hparameter, hrange, ?_⟩
  rw [String.utf8ByteSize_append]
  exact congrArg Prod.snd hspan

/-- Every parameter of a list in the text begins on some line. By these lines the rule tells a list
over several lines. -/
theorem exists_lines (h : member.StandsIn source before body after) :
    ∃ lines, (member.userParameters.mapM fun parameter =>
      parameter.range.map (·.start.line)) = some lines := by
  have hranges : ∀ parameter ∈ member.userParameters, ∃ range, parameter.range = some range := by
    intro parameter hparameter
    have hmem :=
      List.mem_map_of_mem (f := fun parameter => parameter.range.map Range.span) hparameter
    rw [h.parameters] at hmem
    obtain ⟨span, -, hspan⟩ := List.mem_map.1 hmem
    obtain ⟨range, hrange, -⟩ := Option.map_eq_some_iff.1 hspan.symm
    exact ⟨range, hrange⟩
  -- a look-up over a list succeeds when it succeeds at each element
  generalize member.userParameters = parameters at hranges
  induction parameters with
  | nil => exact ⟨[], rfl⟩
  | cons parameter parameters ih =>
    obtain ⟨range, hrange⟩ := hranges parameter List.mem_cons_self
    obtain ⟨lines, hlines⟩ :=
      ih fun other hother => hranges other (List.mem_cons_of_mem parameter hother)
    exact ⟨range.start.line :: lines, by simp [List.mapM_cons, hrange, hlines]⟩

end Member.StandsIn

namespace RequiredTag

variable {member : Member} {source before after : String} {body : ListBody}

/-- **A tag goes where a new item goes**, and is laid out for a list with or without items as the
list is. The list stands in a text whose size is a machine word, so no offset in it overflows. -/
theorem exists_insertionPoint_eq (context : UnitContext)
    (h : member.StandsIn source before body after) :
    ∃ shape : ListShape, insertionPoint context member =
        .ok (some ((before ++ "(" ++ body.head).utf8ByteSize, shape)) ∧
      shape.hasItems = body.hasItems ∧ Text.isBlank shape.indent = true := by
  obtain ⟨list, hlist, hstart⟩ := h.list
  rw [insertionPoint, hlist]
  cases body with
  | empty space =>
    have hnone : member.userParameters = [] := List.map_eq_nil_iff.1 h.parameters
    -- the bracket lies in the text, so the offset behind it is a machine word
    have hoffset : Text.offsetAdd list.start.offset 1 =
        .ok (before ++ "(" ++ (ListBody.empty space).head).utf8ByteSize := by
      have hsize := h.size
      rw [h.text] at hsize
      simp only [String.utf8ByteSize_append, ListBody.head, hstart] at hsize ⊢
      exact Text.offsetAdd_of_fits (by change _ + "(".utf8ByteSize < _; omega)
    rw [hnone, List.getLast?_nil]
    simp only [hoffset, Except.map]
    refine ⟨_, rfl, rfl, ?_⟩
    refine Text.isBlank_append ?_ (isBlank_indentStep _)
    split
    · exact context.isBlank_indentOf _
    · rfl
  | filled front last trailing =>
    obtain ⟨parameter, range, hparameter, hrange, hoffset⟩ := h.exists_last
    have hitems : (ListBody.filled front last trailing).hasItems = true := by
      simp [ListBody.hasItems, ListBody.items]
    obtain ⟨lines, hlines⟩ := h.exists_lines
    simp only [hparameter, pointBehind, hrange, Option.bind_eq_bind, Option.bind_some, hlines,
      hitems, ← hoffset]
    split
    · exact ⟨_, rfl, rfl, context.isBlank_indentOf range⟩
    · exact ⟨_, rfl, rfl, context.isBlank_indentOf range⟩

/-- **A new item comes last, and an inserted tag is one.** For any list, any layout and any white
space, what is inserted for a new item makes the list be read as its items with the new one behind
them, and a comma behind the last item is then behind the new one. The fix for a missing tag inserts
just that, at the place for a new item, in any text with the parameter list on record. -/
theorem insertTagFix_appends_item :
    (∀ (body : ListBody) (multiline : Bool) (indent item : String),
      Text.isBlank indent = true → IsItem item →
      Text.pieces
          (body.head ++ listItemInsertion ⟨body.hasItems, multiline, indent⟩ item ++ body.tail) =
        body.items ++ item :: if body.trailingComma then [""] else []) ∧
    ∀ (rule : RequiredTag) (context : UnitContext) (member : Member) (source before after : String)
      (body : ListBody), member.StandsIn source before body after →
      ∃ (multiline : Bool) (indent : String) (fix : Fix),
        let item := "@" ++ rule.tagMarker ++ " " ++ rule.freshParameterName member.userParameters ++
          ": " ++ rule.tagBase
        let text := listItemInsertion ⟨body.hasItems, multiline, indent⟩ item
        Text.isBlank indent = true ∧ rule.insertTagFix context member = .ok (some fix) ∧
          fix.edits = [.insert (before ++ "(" ++ body.head).utf8ByteSize text] ∧
          fix.apply source =
            .ok (before ++ "(" ++ (body.head ++ text ++ body.tail) ++ ")" ++ after) := by
  refine ⟨fun body multiline indent item hindent hitem => pieces_insert body rfl hindent hitem, ?_⟩
  intro rule context member source before after body h
  obtain ⟨⟨hasItems, multiline, indent⟩, hpoint, rfl, hindent⟩ :=
    exists_insertionPoint_eq context h
  refine ⟨multiline, indent, _, hindent, by rw [insertTagFix, hpoint]; rfl, rfl, ?_⟩
  have hsource : source = before ++ "(" ++ body.head ++ (body.tail ++ ")" ++ after) := by
    rw [h.text, ← body.head_append_tail]
    simp only [String.append_assoc]
  rw [hsource]
  refine (Fix.apply_insertion _ _ _ _).trans (congrArg Except.ok ?_)
  simp only [String.append_assoc]

/-- A list over several lines, with white space before a comma and a comma behind the last
parameter, in a text with a character of two bytes. -/
theorem insertTagFix_before_last_comma :
    let rule : RequiredTag := { tagMarker := "Tag", tagBase := "Op" }
    let source := "fun f(\n\tä: Int ,\n\tb: Int,\n)"
    let member : Member :=
      { Member.method "f" with
        parameterList := some ⟨⟨1, 6, 5⟩, ⟨4, 2, 28⟩⟩
        parameters := [
          { name := "ä", typeRef := .resolved "Int", range := some ⟨⟨2, 2, 8⟩, ⟨2, 9, 15⟩⟩ },
          { name := "b", typeRef := .resolved "Int", range := some ⟨⟨3, 2, 19⟩, ⟨3, 8, 25⟩⟩ }] }
    let context : UnitContext :=
      ⟨{ path := ⟨"Api.kt"⟩, source := some source }, SymbolTable.empty.oracle⟩
    (∃ fix, rule.insertTagFix context member = .ok (some fix) ∧
      fix.apply source = .ok "fun f(\n\tä: Int ,\n\tb: Int,\n\t@Tag tag: Op,\n)") ∧
    Text.pieces "\n\tä: Int ,\n\tb: Int,\n\t@Tag tag: Op,\n" =
      ["ä: Int", "b: Int", "@Tag tag: Op", ""] := by
  intro rule source member context
  let line : Text.Blank := ⟨"\n\t", by decide⟩
  let first : Slot := ⟨line, ⟨"ä: Int", by decide, by decide +kernel, by decide⟩, ⟨" ", by decide⟩⟩
  let last : Slot := ⟨line, ⟨"b: Int", by decide, by decide +kernel, by decide⟩, ⟨"", by decide⟩⟩
  let body : ListBody := .filled [first] last (some ⟨"\n", by decide⟩)
  have hstands : member.StandsIn source "fun f" body "" :=
    ⟨by decide, by decide, ⟨_, rfl, rfl⟩, by decide +kernel⟩
  have htag : IsItem "@Tag tag: Op" := ⟨by decide, by decide +kernel, by decide⟩
  have hnew :
      body.head ++ listItemInsertion ⟨body.hasItems, true, "\t"⟩ "@Tag tag: Op" ++ body.tail =
      "\n\tä: Int ,\n\tb: Int,\n\t@Tag tag: Op,\n" := by decide +kernel
  have hpieces := insertTagFix_appends_item.1 body true "\t" _ (by decide) htag
  rw [hnew] at hpieces
  refine ⟨?_, hpieces⟩
  obtain ⟨multiline, indent, fix, -, hfix, hedits, happly⟩ :=
    insertTagFix_appends_item.2 rule context member source "fun f" "" body hstands
  refine ⟨fix, hfix, ?_⟩
  have hinserted : rule.insertTagFix context member =
      .ok (some ⟨"Insert a `Op` tag", [⟨25, 25, ",\n\t@Tag tag: Op"⟩]⟩) := by decide +kernel
  obtain rfl := Option.some.inj (Except.ok.inj (hinserted.symm.trans hfix))
  have htext : ",\n\t@Tag tag: Op" = listItemInsertion _ _ :=
    congrArg TextEdit.replacement (List.cons.inj hedits).1
  rw [← htext] at happly
  exact happly.trans (congrArg Except.ok (by decide +kernel))

end RequiredTag

end DeclLint
