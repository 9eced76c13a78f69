import DeclLint.Proofs.Edit.Splice

/-!
# Fixes of one edit

All fixes that rules offer are of one kind: one edit, from one boundary of the text to another. Such
a fix applies, and gives the text before the edit, the replacement and the text behind the edit
(`Fix.OneEdit.apply_eq`). Where the parts of the text around the edit are known, so is the result
(`Fix.apply_of_edits_eq_singleton`).
-/

namespace DeclLint

/-- The range covers a stretch of the text, from one boundary to another. -/
structure Range.Within (source : String) (range : Range) : Prop where
  /-- the ends are in order -/
  ordered : range.start.offset ≤ range.stop.offset
  /-- the range begins at a boundary -/
  start : Text.IsBoundary source range.start.offset
  /-- the range ends at a boundary -/
  stop : Text.IsBoundary source range.stop.offset

namespace Fix

/-- The fix is one edit, from one boundary of the text to another. -/
structure OneEdit (source : String) (fix : Fix) (edit : TextEdit) : Prop where
  /-- there is no other edit -/
  edits : fix.edits = [edit]
  /-- the edit is not inverted -/
  ordered : edit.start ≤ edit.stop
  /-- the edit begins and ends at boundaries -/
  fits : Fits source edit

/-- An insertion at a boundary is a fix of one edit, which covers nothing. -/
theorem oneEdit_insertion {source : String} {offset : Nat} (h : Text.IsBoundary source offset)
    (title text : String) : (insertion title offset text).OneEdit source (.insert offset text) :=
  ⟨rfl, Nat.le_refl offset, h, h⟩

theorem oneEdit_replacement {source : String} {range : Range} (h : range.Within source)
    (title text : String) : (replacement title range text).OneEdit source (.replace range text) :=
  ⟨rfl, h.ordered, h.start, h.stop⟩

/-- **A fix of one edit applies**: the text before the edit and the text behind it stay. There is no
other edit that it could overlap. -/
theorem OneEdit.apply_eq {source : String} {fix : Fix} {edit : TextEdit}
    (h : fix.OneEdit source edit) :
    ∃ before after, Text.slice? source 0 edit.start = some before ∧
      Text.slice? source edit.stop source.utf8ByteSize = some after ∧
      fix.apply source = .ok (before ++ edit.replacement ++ after) := by
  have hsorted : fix.sortedEdits = [edit] := by
    rw [sortedEdits, h.edits, List.mergeSort_singleton]
  have hvalid : fix.validate = .ok () := by
    rw [validate_eq_ok_iff, hsorted]
    exact ⟨Nat.zero_le _, h.ordered, trivial⟩
  have hfits : ∀ other ∈ fix.edits, Fits source other := by
    rw [h.edits]
    exact List.forall_mem_singleton.2 h.fits
  obtain ⟨output, happly, hsplice⟩ := apply_of_fits fix source hvalid hfits
  have hedit : edit.splice? source = some output := by
    simpa [spliceBackwards, hsorted] using hsplice
  -- the edit is made by cutting out the two slices
  obtain ⟨before, hbefore, hedit⟩ := Option.bind_eq_some_iff.1 hedit
  obtain ⟨after, hafter, hedit⟩ := Option.bind_eq_some_iff.1 hedit
  obtain rfl := Option.some.inj hedit
  exact ⟨before, after, hbefore, hafter, happly⟩

/-- **One edit replaces one part**: the parts of the text before it and behind it stay. Here the
text is given by its parts, and not by offsets. -/
theorem apply_of_edits_eq_singleton {fix : Fix} {edit : TextEdit} {before covered : String}
    (hedits : fix.edits = [edit]) (hstart : before.utf8ByteSize = edit.start)
    (hstop : (before ++ covered).utf8ByteSize = edit.stop) (after : String) :
    fix.apply (before ++ covered ++ after) = .ok (before ++ edit.replacement ++ after) := by
  have hordered : edit.start ≤ edit.stop := by
    rw [← hstart, ← hstop, String.utf8ByteSize_append]
    exact Nat.le_add_right _ _
  have hfront : Text.slice? (before ++ covered ++ after) 0 edit.start = some before := by
    rw [← hstart]
    exact Text.slice?_eq_some_iff.2
      ⟨"", covered ++ after, by simp [String.append_assoc], rfl, by simp⟩
  have hback : Text.slice? (before ++ covered ++ after) edit.stop
      (before ++ covered ++ after).utf8ByteSize = some after := by
    rw [← hstop]
    exact Text.slice?_eq_some_iff.2 ⟨before ++ covered, "", by simp, rfl, rfl⟩
  -- the slices around the edit begin and end at boundaries
  have hfits : Fits (before ++ covered ++ after) edit :=
    ⟨(Text.slice?_isSome_iff.1 (Option.isSome_of_mem hfront)).2.2,
      (Text.slice?_isSome_iff.1 (Option.isSome_of_mem hback)).2.1⟩
  obtain ⟨kept, behind, hkept, hbehind, happly⟩ := OneEdit.apply_eq ⟨hedits, hordered, hfits⟩
  obtain rfl := Option.some.inj (hfront.symm.trans hkept)
  obtain rfl := Option.some.inj (hback.symm.trans hbehind)
  exact happly

/-- **An insertion applies** at every boundary of the text. -/
theorem apply_insertion (title text before after : String) :
    (insertion title before.utf8ByteSize text).apply (before ++ after) =
      .ok (before ++ text ++ after) := by
  have hedits : (insertion title before.utf8ByteSize text).edits =
      [.insert before.utf8ByteSize text] := rfl
  have hstop : (before ++ "").utf8ByteSize = before.utf8ByteSize := by rw [String.append_empty]
  have happly := apply_of_edits_eq_singleton hedits rfl hstop after
  rwa [String.append_empty] at happly

end Fix

/-! ### Ranges that cover a part -/

/-- The text is made of three parts, and the range covers the second. -/
structure Range.Covers (text : String) (range : Range) (before piece after : String) : Prop where
  /-- the three parts -/
  eq : text = before ++ piece ++ after
  /-- the range begins behind the first part -/
  start : range.start.offset = before.utf8ByteSize
  /-- the range ends behind the second part -/
  stop : range.stop.offset = (before ++ piece).utf8ByteSize

namespace Range.Covers

variable {text before piece after : String} {range : Range}

theorem slice?_eq (h : range.Covers text before piece after) :
    Text.slice? text range.start.offset range.stop.offset = some piece :=
  Text.slice?_eq_some_iff.2 ⟨before, after, h.eq, h.start.symm, h.stop.symm⟩

/-- **A replacement applies** to a range that covers a part of the text, and replaces that part. -/
theorem apply_replacement (h : range.Covers text before piece after) (title replacement : String) :
    (Fix.replacement title range replacement).apply text =
      .ok (before ++ replacement ++ after) := by
  have hedits :
      (Fix.replacement title range replacement).edits = [.replace range replacement] := rfl
  rw [h.eq]
  exact Fix.apply_of_edits_eq_singleton hedits h.start.symm h.stop.symm after

end Range.Covers

end DeclLint
