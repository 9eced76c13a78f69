import DeclLint.Edit.Apply
import DeclLint.Proofs.StableSort
import DeclLint.Proofs.Text.Slice

/-!
# One pass makes all edits

`Fix.apply` goes over the text once, with a cursor. Here it is compared with making the edits one at
a time, each by its offsets in the text before any edit: from the last edit to the first no edit
moves what the next one refers to.

* `Fix.apply` succeeds exactly when the fix is valid and every edit begins and ends at a boundary of
  the text;
* the text it then gives is the one `Fix.spliceBackwards` gives;
* `Fix.applyBySlices` is the same pass, written with slices of the text between absolute offsets. It
  never asks for a slice that does not exist.

The invariant of the pass is that the text is `done ++ rest`, where `done` ends at the cursor and no
edit that is left begins before it (`Fix.InLine`).
-/

namespace DeclLint

/-! ### Edits made on their own -/

/-- The text with one edit made: what is before the edit, the replacement, what is behind it. -/
def TextEdit.splice? (edit : TextEdit) (text : String) : Option String := do
  let before ← Text.slice? text 0 edit.start
  let after ← Text.slice? text edit.stop text.utf8ByteSize
  return before ++ edit.replacement ++ after

theorem TextEdit.splice?_append {edit : TextEdit} {before covered after : String}
    (hstart : before.utf8ByteSize = edit.start)
    (hstop : (before ++ covered).utf8ByteSize = edit.stop) :
    edit.splice? (before ++ covered ++ after) = some (before ++ edit.replacement ++ after) := by
  have hbefore : Text.slice? (before ++ covered ++ after) 0 edit.start = some before := by
    refine Text.slice?_eq_some_iff.2 ⟨"", covered ++ after, ?_, rfl, ?_⟩
    · rw [String.empty_append, String.append_assoc]
    · rw [String.empty_append, hstart]
  have hafter : Text.slice? (before ++ covered ++ after) edit.stop
      (before ++ covered ++ after).utf8ByteSize = some after := by
    refine Text.slice?_eq_some_iff.2 ⟨before ++ covered, "", ?_, hstop, rfl⟩
    rw [String.append_empty]
  rw [splice?, hbefore, Option.bind_eq_bind, Option.bind_some, hafter]
  rfl

/-- The order of edits is an order to sort by. Edits of one stretch tie in it, as insertions at one
point do. -/
theorem TextEdit.isOrder_le : IsOrder TextEdit.le where
  trans a b c := by
    simp only [le, Bool.or_eq_true, Bool.and_eq_true, decide_eq_true_eq, beq_iff_eq]
    omega
  total a b := by
    simp only [le, Bool.or_eq_true, Bool.and_eq_true, decide_eq_true_eq, beq_iff_eq]
    omega

namespace Fix

/-- Makes the edits one at a time, from the last to the first in order of position. -/
def spliceBackwards (fix : Fix) (source : String) : Option String :=
  fix.sortedEdits.foldrM TextEdit.splice? source

/-! ### The pass by slices -/

/-- The pass over the edits that are left, with slices of the whole text. There is no answer when a
slice is asked for that does not exist. -/
def passBySlices (source : String) : (cursor : Nat) → List TextEdit →
    Option (Except EditError String)
  | cursor, [] => (Text.slice? source cursor source.utf8ByteSize).map .ok
  | cursor, edit :: edits =>
    if source.utf8ByteSize < edit.stop then
      some (.error (.outOfBounds edit.stop source.utf8ByteSize))
    else if ¬ Text.IsBoundary source edit.start then
      some (.error (.notCharBoundary edit.start))
    else if ¬ Text.IsBoundary source edit.stop then
      some (.error (.notCharBoundary edit.stop))
    else do
      let kept ← Text.slice? source cursor edit.start
      let output ← passBySlices source edit.stop edits
      return output.map (kept ++ edit.replacement ++ ·)

/-- Applies a fix by slices of the text. -/
def applyBySlices (fix : Fix) (source : String) : Option (Except EditError String) :=
  match fix.validate with
  | .ok () => passBySlices source 0 fix.sortedEdits
  | .error error => some (.error error)

/-! ### Valid edits stand in line -/

/-- The edits stand one behind the other, none is inverted and none begins before the cursor. -/
def InLine : (cursor : Nat) → List TextEdit → Prop
  | _, [] => True
  | cursor, edit :: edits =>
    cursor ≤ edit.start ∧ edit.start ≤ edit.stop ∧ InLine edit.stop edits

/-- The check goes from edit to edit. It lets through what stands in line behind the end of the edit
before. -/
theorem validateAfter_eq_ok_iff (previous : Option TextEdit) (edits : List TextEdit) :
    validateAfter previous edits = .ok () ↔ InLine ((previous.map (·.stop)).getD 0) edits := by
  induction edits generalizing previous with
  | nil => simp [validateAfter, InLine]
  | cons edit edits ih =>
    cases previous with
    | none =>
      rw [validateAfter, InLine]
      simp only [Option.map_none, Option.getD_none, Nat.zero_le, true_and]
      split
      · simp only [reduceCtorEq, false_iff]
        omega
      · rw [ih (some edit)]
        exact ⟨fun h => ⟨by omega, h⟩, fun h => h.2⟩
    | some before =>
      rw [validateAfter, InLine]
      simp only [Option.map_some, Option.getD_some]
      split
      · simp only [reduceCtorEq, false_iff]
        omega
      · split
        · simp only [reduceCtorEq, false_iff]
          omega
        · rw [ih (some edit)]
          exact ⟨fun h => ⟨by omega, by omega, h⟩, fun h => h.2.2⟩

/-- **A fix is valid exactly when its edits stand in line** once they are sorted. -/
theorem validate_eq_ok_iff (fix : Fix) : fix.validate = .ok () ↔ InLine 0 fix.sortedEdits :=
  validateAfter_eq_ok_iff none fix.sortedEdits

theorem mem_sortedEdits {fix : Fix} {edit : TextEdit} :
    edit ∈ fix.sortedEdits ↔ edit ∈ fix.edits :=
  List.mem_mergeSort

/-! ### One step of the pass -/

section Step

variable {source : String} {done rest : List Char} {edit : TextEdit} {edits : List TextEdit}

/-- Both ends of an edit lie at boundaries of the text. -/
def Fits (source : String) (edit : TextEdit) : Prop :=
  Text.IsBoundary source edit.start ∧ Text.IsBoundary source edit.stop

instance (source : String) (edit : TextEdit) : Decidable (Fits source edit) :=
  inferInstanceAs (Decidable (_ ∧ _))

/-- What is left of a text is cut at an offset by its distance from the cursor. Offsets are counted
in the whole text, and the pass holds the rest. -/
theorem splitAtByte_rest {kept behind : List Char} {offset : Nat} (hrest : rest = kept ++ behind)
    (hoffset : Text.byteCount (done ++ kept) = offset) :
    Text.splitAtByte (offset - Text.byteCount done) rest = some (kept, behind) := by
  refine Text.splitAtByte_eq_some_iff.2 ⟨hrest, ?_⟩
  rw [Text.byteCount_append] at hoffset
  omega

/-- Inside a character or past the end, there is no cut in the rest either. -/
theorem splitAtByte_rest_eq_none {offset : Nat} (hsource : source.toList = done ++ rest)
    (hle : Text.byteCount done ≤ offset) (hoffset : ¬ Text.IsBoundary source offset) :
    Text.splitAtByte (offset - Text.byteCount done) rest = none := by
  rcases hcut : Text.splitAtByte (offset - Text.byteCount done) rest with _ | ⟨kept, behind⟩
  · rfl
  · obtain ⟨rfl, hkept⟩ := Text.splitAtByte_eq_some_iff.1 hcut
    refine absurd (Text.isBoundary_iff.2 ⟨done ++ kept, behind, ?_, ?_⟩) hoffset
    · rw [hsource, List.append_assoc]
    · rw [Text.byteCount_append]
      omega

/-- A boundary behind the cursor cuts what is left of the text. -/
theorem exists_cut_rest {offset : Nat} (hsource : source.toList = done ++ rest)
    (hle : Text.byteCount done ≤ offset) (hoffset : Text.IsBoundary source offset) :
    ∃ kept behind, rest = kept ++ behind ∧ Text.byteCount (done ++ kept) = offset := by
  obtain ⟨before, after, htext, rfl⟩ := Text.isBoundary_iff.1 hoffset
  obtain ⟨kept, rfl, rfl⟩ := Text.exists_append_of_byteCount_le (hsource.symm.trans htext) hle
  exact ⟨kept, after, rfl, rfl⟩

/-- The three parts an edit that fits cuts the rest of the text into. -/
theorem exists_parts (hsource : source.toList = done ++ rest)
    (hstart : Text.byteCount done ≤ edit.start) (hstop : edit.start ≤ edit.stop)
    (hfits : Fits source edit) :
    ∃ kept covered behind, rest = kept ++ (covered ++ behind) ∧
      source.toList = done ++ kept ++ covered ++ behind ∧
      Text.byteCount (done ++ kept) = edit.start ∧
      Text.byteCount (done ++ kept ++ covered) = edit.stop := by
  obtain ⟨kept, tail, rfl, hkept⟩ := exists_cut_rest hsource hstart hfits.1
  have hsource' : source.toList = (done ++ kept) ++ tail := by rw [hsource, List.append_assoc]
  obtain ⟨covered, behind, rfl, hcovered⟩ :=
    exists_cut_rest hsource' (hkept ▸ hstop) hfits.2
  refine ⟨kept, covered, behind, rfl, ?_, hkept, hcovered⟩
  rw [hsource', List.append_assoc (done ++ kept)]

/-- **A step that succeeds.** Where the edit cuts the rest into three parts, the pass keeps the
first, puts the replacement in place of the second and goes on in the third. -/
theorem splice_cons_parts {size : Nat} {kept covered behind : List Char}
    (hrest : rest = kept ++ (covered ++ behind))
    (hkept : Text.byteCount (done ++ kept) = edit.start)
    (hcovered : Text.byteCount (done ++ kept ++ covered) = edit.stop) (hsize : edit.stop ≤ size) :
    splice size (Text.byteCount done) rest (edit :: edits) =
      (splice size edit.stop behind edits).map (kept ++ edit.replacement.toList ++ ·) := by
  have hstop : Text.splitAtByte (edit.stop - edit.start) (covered ++ behind) =
      some (covered, behind) := by
    rw [← hkept]
    exact splitAtByte_rest rfl hcovered
  rw [splice, if_neg (Nat.not_lt.2 hsize), splitAtByte_rest hrest hkept]
  simp only [hstop]
  cases splice size edit.stop behind edits <;> rfl

/-- What is wrong with an edit that does not fit. -/
def misfit (source : String) (edit : TextEdit) : EditError :=
  if source.utf8ByteSize < edit.stop then .outOfBounds edit.stop source.utf8ByteSize
  else if ¬ Text.IsBoundary source edit.start then .notCharBoundary edit.start
  else .notCharBoundary edit.stop

/-- **A step that fails** says what is wrong with the edit: it ends past the text, or one of its
ends lies inside a character. -/
theorem splice_cons_misfit (hsource : source.toList = done ++ rest)
    (hstart : Text.byteCount done ≤ edit.start) (hstop : edit.start ≤ edit.stop)
    (hfits : ¬ Fits source edit) :
    splice source.utf8ByteSize (Text.byteCount done) rest (edit :: edits) =
      .error (misfit source edit) := by
  rw [splice, misfit]
  split
  · rfl
  · by_cases hfirst : Text.IsBoundary source edit.start
    · -- the start fits, so the end does not
      have hlast : ¬ Text.IsBoundary source edit.stop := fun h => hfits ⟨hfirst, h⟩
      obtain ⟨kept, tail, rfl, hkept⟩ := exists_cut_rest hsource hstart hfirst
      have hsource' : source.toList = (done ++ kept) ++ tail := by rw [hsource, List.append_assoc]
      have hnone := splitAtByte_rest_eq_none hsource' (hkept ▸ hstop) hlast
      rw [hkept] at hnone
      rw [splitAtByte_rest rfl hkept, if_neg (not_not_intro hfirst)]
      simp only [hnone]
    · rw [splitAtByte_rest_eq_none hsource hstart hfirst, if_pos hfirst]

theorem passBySlices_cons_misfit {cursor : Nat} (hfits : ¬ Fits source edit) :
    passBySlices source cursor (edit :: edits) = some (.error (misfit source edit)) := by
  rw [passBySlices, misfit]
  split
  · rfl
  · split
    · rfl
    · rename_i hfirst
      have hlast : ¬ Text.IsBoundary source edit.stop :=
        fun h => hfits ⟨Decidable.not_not.1 hfirst, h⟩
      rw [if_pos hlast]

/-! ### The whole pass -/

/-- **The pass succeeds** on edits in line that fit, and what it gives stands behind `done` in the
text with the edits made one at a time. -/
theorem splice_of_fits (hsource : source.toList = done ++ rest)
    (hline : InLine (Text.byteCount done) edits) (hfits : ∀ edit ∈ edits, Fits source edit) :
    ∃ output, splice source.utf8ByteSize (Text.byteCount done) rest edits = .ok output ∧
      edits.foldrM TextEdit.splice? source = some (String.ofList (done ++ output)) := by
  induction edits generalizing done rest with
  | nil =>
    refine ⟨rest, rfl, ?_⟩
    rw [← hsource, String.ofList_toList]
    rfl
  | cons edit edits ih =>
    obtain ⟨hstart, hstop, hline⟩ := hline
    obtain ⟨kept, covered, behind, rfl, hsource', hkept, hcovered⟩ :=
      exists_parts hsource hstart hstop (hfits edit List.mem_cons_self)
    -- the edits behind this one leave everything up to its end as it is
    obtain ⟨output, hsplice, hfold⟩ := ih hsource' (hcovered ▸ hline)
      fun later hlater => hfits later (List.mem_cons_of_mem edit hlater)
    rw [hcovered] at hsplice
    refine ⟨kept ++ edit.replacement.toList ++ output, ?_, ?_⟩
    · rw [splice_cons_parts rfl hkept hcovered (hfits edit List.mem_cons_self).2.le_size, hsplice]
      rfl
    · have hedit : edit.splice?
          (String.ofList (done ++ kept) ++ String.ofList covered ++ String.ofList output) =
            some (String.ofList (done ++ kept) ++ edit.replacement ++ String.ofList output) := by
        refine TextEdit.splice?_append ?_ ?_
        · rw [Text.utf8ByteSize_ofList, hkept]
        · rw [← String.ofList_append, Text.utf8ByteSize_ofList, hcovered]
      rw [List.foldrM_cons, hfold, Option.bind_eq_bind, Option.bind_some, String.ofList_append,
        String.ofList_append, hedit]
      simp only [String.ofList_append, String.ofList_toList, String.append_assoc]

/-- **The pass fails** on edits in line when one of them does not fit. It goes on up to the first of
these, and what it made before is given up. -/
theorem splice_of_misfit (hsource : source.toList = done ++ rest)
    (hline : InLine (Text.byteCount done) edits) (hmisfit : ∃ edit ∈ edits, ¬ Fits source edit) :
    ∃ error, splice source.utf8ByteSize (Text.byteCount done) rest edits = .error error := by
  induction edits generalizing done rest with
  | nil =>
    obtain ⟨edit, hmem, -⟩ := hmisfit
    cases hmem
  | cons edit edits ih =>
    obtain ⟨hstart, hstop, hline⟩ := hline
    by_cases hfits : Fits source edit
    · obtain ⟨kept, covered, behind, rfl, hsource', hkept, hcovered⟩ :=
        exists_parts hsource hstart hstop hfits
      have hlater : ∃ later ∈ edits, ¬ Fits source later := by
        obtain ⟨later, hmem, hlater⟩ := hmisfit
        rcases List.mem_cons.1 hmem with rfl | hmem
        · exact absurd hfits hlater
        · exact ⟨later, hmem, hlater⟩
      obtain ⟨error, herror⟩ := ih hsource' (hcovered ▸ hline) hlater
      rw [hcovered] at herror
      refine ⟨error, ?_⟩
      rw [splice_cons_parts rfl hkept hcovered hfits.2.le_size, herror]
      rfl
    · exact ⟨misfit source edit, splice_cons_misfit hsource hstart hstop hfits⟩

/-- **The pass by slices** is the same pass: on edits in line every slice it takes exists. -/
theorem passBySlices_eq (hsource : source.toList = done ++ rest)
    (hline : InLine (Text.byteCount done) edits) :
    passBySlices source (Text.byteCount done) edits =
      some ((splice source.utf8ByteSize (Text.byteCount done) rest edits).map String.ofList) := by
  induction edits generalizing done rest with
  | nil =>
    have hslice : Text.slice? source (Text.byteCount done) source.utf8ByteSize =
        some (String.ofList rest) := by
      refine Text.slice?_eq_some_iff.2 ⟨String.ofList done, "", ?_, ?_, ?_⟩
      · rw [String.append_empty, ← String.ofList_append, ← hsource, String.ofList_toList]
      · rw [Text.utf8ByteSize_ofList]
      · rw [← String.ofList_append, ← hsource, String.ofList_toList]
    rw [passBySlices, hslice]
    rfl
  | cons edit edits ih =>
    obtain ⟨hstart, hstop, hline⟩ := hline
    by_cases hfits : Fits source edit
    · obtain ⟨kept, covered, behind, rfl, hsource', hkept, hcovered⟩ :=
        exists_parts hsource hstart hstop hfits
      have hrest := ih hsource' (hcovered ▸ hline)
      rw [hcovered] at hrest
      have hslice : Text.slice? source (Text.byteCount done) edit.start =
          some (String.ofList kept) := by
        refine Text.slice?_eq_some_iff.2
          ⟨String.ofList done, String.ofList (covered ++ behind), ?_, ?_, ?_⟩
        · rw [← String.ofList_append, ← String.ofList_append, List.append_assoc, ← hsource,
            String.ofList_toList]
        · rw [Text.utf8ByteSize_ofList]
        · rw [← String.ofList_append, Text.utf8ByteSize_ofList, hkept]
      rw [passBySlices, if_neg (Nat.not_lt.2 hfits.2.le_size), if_neg (not_not_intro hfits.1),
        if_neg (not_not_intro hfits.2), hslice, hrest,
        splice_cons_parts rfl hkept hcovered hfits.2.le_size]
      cases splice source.utf8ByteSize edit.stop behind edits with
      | ok output => simp [Except.map, String.ofList_append, String.append_assoc]
      | error error => rfl
    · rw [passBySlices_cons_misfit hfits, splice_cons_misfit hsource hstart hstop hfits]
      rfl

end Step

/-! ### Applying a fix -/

section Apply

variable (fix : Fix) (source : String)

/-- A fix that is not valid is refused before the text is looked at. -/
theorem apply_of_invalid {error : EditError} (h : fix.validate = .error error) :
    fix.apply source = .error error := by
  rw [apply, h]
  rfl

theorem apply_of_valid (h : fix.validate = .ok ()) :
    fix.apply source =
      (splice source.utf8ByteSize 0 source.toList fix.sortedEdits).map String.ofList := by
  simp only [apply, h, Text.byteCount_toList]
  cases splice source.utf8ByteSize 0 source.toList fix.sortedEdits <;> rfl

/-- A valid fix whose edits fit can be applied, and gives the text with its edits made one at a
time. Going backwards, no edit shifts another. -/
theorem apply_of_fits (hvalid : fix.validate = .ok ())
    (hfits : ∀ edit ∈ fix.edits, Fits source edit) :
    ∃ output, fix.apply source = .ok output ∧ fix.spliceBackwards source = some output := by
  have hsource : source.toList = [] ++ source.toList := rfl
  obtain ⟨output, hsplice, hfold⟩ := splice_of_fits hsource
    (fix.validate_eq_ok_iff.1 hvalid) fun edit hedit => hfits edit (mem_sortedEdits.1 hedit)
  refine ⟨String.ofList output, ?_, hfold⟩
  rw [apply_of_valid fix source hvalid]
  exact congrArg (Except.map String.ofList) hsplice

/-- A fix that can be applied is valid, and its edits fit. Both are checked before there is a
result. -/
theorem fits_of_apply {output : String} (h : fix.apply source = .ok output) :
    fix.validate = .ok () ∧ ∀ edit ∈ fix.edits, Fits source edit := by
  rcases hvalid : fix.validate with error | ⟨⟩
  · rw [apply_of_invalid fix source hvalid] at h
    cases h
  · refine ⟨rfl, fun edit hedit => Decidable.byContradiction fun hmisfit => ?_⟩
    have hsource : source.toList = [] ++ source.toList := rfl
    obtain ⟨error, herror⟩ := splice_of_misfit hsource
      (fix.validate_eq_ok_iff.1 hvalid) ⟨edit, mem_sortedEdits.2 hedit, hmisfit⟩
    rw [Text.byteCount_nil] at herror
    rw [apply_of_valid fix source hvalid, herror] at h
    cases h

/-- No slice is asked for that does not exist, so that applying a fix always comes to an answer, be
it a text or an error. -/
theorem applyBySlices_eq : fix.applyBySlices source = some (fix.apply source) := by
  rw [applyBySlices]
  rcases hvalid : fix.validate with error | ⟨⟩
  · rw [apply_of_invalid fix source hvalid]
  · rw [apply_of_valid fix source hvalid]
    have hsource : source.toList = [] ++ source.toList := rfl
    exact passBySlices_eq hsource (fix.validate_eq_ok_iff.1 hvalid)

/-- **One pass makes all edits.** A fix can be applied exactly when it is valid and all its edits
begin and end at boundaries of the text. The result is the text with the edits made one at a time
from the last to the first, in the order of a stable sort by position, and on the way every slice
exists. -/
theorem apply_ok_iff_and_eq_spliceBackwards :
    ((∃ output, fix.apply source = .ok output) ↔
      fix.validate = .ok () ∧ ∀ edit ∈ fix.edits,
        Text.IsBoundary source edit.start ∧ Text.IsBoundary source edit.stop) ∧
    (∀ output, fix.apply source = .ok output → fix.spliceBackwards source = some output) ∧
    IsStableSort TextEdit.le fix.edits fix.sortedEdits ∧
    fix.applyBySlices source = some (fix.apply source) := by
  refine ⟨⟨?_, ?_⟩, ?_, isStableSort_mergeSort TextEdit.isOrder_le fix.edits,
    applyBySlices_eq fix source⟩
  · rintro ⟨output, h⟩
    exact fits_of_apply fix source h
  · rintro ⟨hvalid, hfits⟩
    obtain ⟨output, h, -⟩ := apply_of_fits fix source hvalid hfits
    exact ⟨output, h⟩
  · intro output h
    obtain ⟨hvalid, hfits⟩ := fits_of_apply fix source h
    obtain ⟨output', h', hsplice⟩ := apply_of_fits fix source hvalid hfits
    rw [h] at h'
    obtain rfl := Except.ok.inj h'
    exact hsplice

end Apply

/-- Two insertions at one point, then two replacements that touch, listed out of order in a text
with a character of two bytes. -/
theorem apply_touching_edits :
    let fix : Fix := ⟨"", [⟨3, 4, "Z"⟩, ⟨1, 3, "XY"⟩, ⟨0, 0, "1"⟩, ⟨0, 0, "2"⟩]⟩
    fix.apply "aébc" = .ok "12aXYZc" ∧ fix.spliceBackwards "aébc" = some "12aXYZc" := by
  intro fix
  have hsorted : fix.sortedEdits = [⟨0, 0, "1"⟩, ⟨0, 0, "2"⟩, ⟨1, 3, "XY"⟩, ⟨3, 4, "Z"⟩] := by
    simp [fix, sortedEdits, List.mergeSort, List.MergeSort.Internal.splitInTwo, TextEdit.le]
  have happly : fix.apply "aébc" = .ok "12aXYZc" := by
    rw [apply, validate, hsorted]
    rfl
  exact ⟨happly, (apply_ok_iff_and_eq_spliceBackwards _ _).2.1 _ happly⟩

end Fix

end DeclLint
