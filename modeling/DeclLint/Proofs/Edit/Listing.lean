import DeclLint.Proofs.Edit.Overlap
import Mathlib.Algebra.BigOperators.Group.List.Basic
import Mathlib.Algebra.Ring.Nat
import Mathlib.Data.Fin.VecNotation
import Mathlib.Data.Fintype.Basic

/-!
# In which order edits are listed

A fix sorts its edits before it makes them, so their order in the list should not matter. It does in
one case: of two insertions at one point, the one listed first comes first. Everything else may be
rearranged.

* **same stretch** — two edits of one stretch tie when they are sorted. Unless they are insertions,
  they overlap, so a valid fix has no two of them (`Fix.length_filter_tie_le_one`). An invalid fix
  is refused for the same reason in every order (`Fix.validate_eq_of_perm`);
* **same sort** — a rearrangement that keeps insertions at one point in order keeps every class of
  ties as it is, and a stable sort looks at nothing else (`Fix.sortedEdits_eq_of_relisted`).

The size of the result needs no order at all: each step of the pass drops what its edit covers and
adds the replacement (`Fix.size_splice`).
-/

namespace DeclLint

/-! ### Rearranged lists -/

section Rearranged

variable {α : Type} {items rearranged : List α} (place : Fin items.length ≃ Fin rearranged.length)

theorem map_finRange_perm :
    ((List.finRange items.length).map place).Perm (List.finRange rearranged.length) := by
  refine (List.perm_ext_iff_of_nodup ?_ (List.nodup_finRange _)).2 fun j => ?_
  · exact (List.nodup_finRange _).map place.injective
  · refine ⟨fun _ => List.mem_finRange j, fun _ => ?_⟩
    exact List.mem_map.2 ⟨place.symm j, List.mem_finRange _, place.apply_symm_apply j⟩

variable (hplace : rearranged.get ∘ place = items.get)
include hplace

/-- What is rearranged by a one-to-one map of places is a permutation. -/
theorem perm_of_place : rearranged.Perm items := by
  have hmap : ((List.finRange items.length).map place).map rearranged.get = items := by
    rw [List.map_map, hplace, List.map_get_finRange]
  have hperm := (map_finRange_perm place).map rearranged.get
  rw [hmap, List.map_get_finRange] at hperm
  exact hperm.symm

/-- The elements that pass a test stand as before, when their places follow each other as before.
The other elements may go anywhere. -/
theorem filter_eq_of_place {test : α → Bool}
    (hkeeps : ∀ i j, i < j → test (items.get i) → test (items.get j) → place i < place j) :
    rearranged.filter test = items.filter test := by
  -- the places of these elements, in both lists
  let old := (List.finRange items.length).filter (test ∘ items.get)
  let new := (List.finRange rearranged.length).filter (test ∘ rearranged.get)
  have hold : items.filter test = old.map items.get := by
    rw [← List.filter_map, List.map_get_finRange]
  have hnew : rearranged.filter test = new.map rearranged.get := by
    rw [← List.filter_map, List.map_get_finRange]
  have hperm : (old.map place).Perm new := by
    have htest : test ∘ items.get = (test ∘ rearranged.get) ∘ place :=
      congrArg (test ∘ ·) hplace.symm
    change (((List.finRange items.length).filter (test ∘ items.get)).map place).Perm new
    rw [htest, ← List.filter_map]
    exact (map_finRange_perm place).filter _
  have hsorted : (old.map place).Pairwise (· < ·) := by
    rw [List.pairwise_map, List.pairwise_filter]
    exact (List.pairwise_lt_finRange _).imp fun hlt hi hj => hkeeps _ _ hlt hi hj
  have hsorted' : new.Pairwise (· < ·) := (List.pairwise_lt_finRange _).filter _
  have hplaces : old.map place = new :=
    hperm.eq_of_pairwise (fun _ _ _ _ hlt hgt => absurd hgt hlt.asymm) hsorted hsorted'
  rw [hnew, hold, ← hplaces, List.map_map, hplace]

end Rearranged

namespace Fix

/-- `other` lists the same edits in another order. Insertions at one point follow each other as
before; nothing else has to. -/
def Relisted (edits other : List TextEdit) : Prop :=
  ∃ place : Fin edits.length ≃ Fin other.length,
    (∀ i, other.get (place i) = edits.get i) ∧
    ∀ i j, i < j → (edits.get i).isInsertion → (edits.get j).isInsertion →
      (edits.get i).start = (edits.get j).start → place i < place j

/-- The bytes the edits cover. -/
def coveredBytes (edits : List TextEdit) : Nat := (edits.map fun edit => edit.stop - edit.start).sum

/-- The bytes of all replacements. -/
def insertedBytes (edits : List TextEdit) : Nat :=
  (edits.map fun edit => edit.replacement.utf8ByteSize).sum

/-! ### Edits of one stretch -/

/-- Edits tie in the order when they have one stretch, whatever they put there. -/
theorem tie_le_iff {a b : TextEdit} :
    tie TextEdit.le a b = true ↔ a.start = b.start ∧ a.stop = b.stop := by
  rw [tie, Bool.and_eq_true, TextEdit.le_iff, TextEdit.le_iff]
  omega

/-- **Of a stretch that is not empty**, a valid fix has at most one edit, for two would overlap. -/
theorem length_filter_tie_le_one {fix : Fix} (hvalid : fix.validate = .ok ()) {a : TextEdit}
    (ha : a.start ≠ a.stop) : (fix.edits.filter (tie TextEdit.le a)).length ≤ 1 := by
  obtain ⟨hstops, hplaces⟩ := (fix.validate_eq_ok_iff_forall_places).1 hvalid
  by_contra hlength
  obtain ⟨b, c, hpair⟩ : ∃ b c, [b, c].Sublist (fix.edits.filter (tie TextEdit.le a)) := by
    rcases hfilter : fix.edits.filter (tie TextEdit.le a) with _ | ⟨b, _ | ⟨c, rest⟩⟩
    · simp [hfilter] at hlength
    · simp [hfilter] at hlength
    · exact ⟨b, c, by simp⟩
  have hb := List.mem_filter.1 (hpair.subset (List.mem_cons_self))
  have hc := List.mem_filter.1 (hpair.subset (List.mem_cons_of_mem b List.mem_cons_self))
  obtain ⟨hbstart, hbstop⟩ := tie_le_iff.1 hb.2
  obtain ⟨hcstart, hcstop⟩ := tie_le_iff.1 hc.2
  have hstop := hstops b hb.1
  -- both cover the stretch of `a`
  refine hplaces b c (atTwoPlaces_of_sublist (hpair.trans List.filter_sublist)) ⟨?_, ?_⟩
  · omega
  · omega

/-! ### Rearranged edits -/

section Relisted

variable {fix other : Fix} {source : String}

theorem Relisted.perm {edits other : List TextEdit} (h : Relisted edits other) :
    other.Perm edits := by
  obtain ⟨place, hplace, -⟩ := h
  exact perm_of_place place (funext hplace)

/-- **Edits of one stretch stay in order** when the fix is valid: either there is at most one, or
they are insertions at one point. -/
theorem Relisted.filter_tie_eq (h : Relisted fix.edits other.edits) (hvalid : fix.validate = .ok ())
    (a : TextEdit) :
    other.edits.filter (tie TextEdit.le a) = fix.edits.filter (tie TextEdit.le a) := by
  by_cases ha : a.start = a.stop
  · -- the edits of an empty stretch are insertions at one point
    obtain ⟨place, hplace, hkeeps⟩ := h
    refine filter_eq_of_place place (funext hplace) fun i j hlt hi hj => ?_
    obtain ⟨histart, histop⟩ := tie_le_iff.1 hi
    obtain ⟨hjstart, hjstop⟩ := tie_le_iff.1 hj
    refine hkeeps i j hlt ?_ ?_ (histart.symm.trans hjstart)
    · rw [TextEdit.isInsertion, beq_iff_eq]
      omega
    · rw [TextEdit.isInsertion, beq_iff_eq]
      omega
  · -- of any other stretch there is one edit at most
    have hperm := h.perm.filter (tie TextEdit.le a)
    have hlength := length_filter_tie_le_one hvalid ha
    rcases hfilter : fix.edits.filter (tie TextEdit.le a) with _ | ⟨b, _ | ⟨c, rest⟩⟩
    · rw [hfilter] at hperm
      exact hperm.eq_nil
    · rw [hfilter] at hperm
      exact List.perm_singleton.1 hperm
    · simp [hfilter] at hlength

/-- **The edits are sorted alike**, as the sort is stable and edits that tie come in the same
order. -/
theorem sortedEdits_eq_of_relisted (h : Relisted fix.edits other.edits)
    (hvalid : fix.validate = .ok ()) : other.sortedEdits = fix.sortedEdits := by
  refine eq_of_filter_tie_eq TextEdit.isOrder_le other.pairwise_sortedEdits fix.pairwise_sortedEdits
    fun a => ?_
  rw [sortedEdits, sortedEdits, filter_tie_mergeSort TextEdit.isOrder_le,
    filter_tie_mergeSort TextEdit.isOrder_le, h.filter_tie_eq hvalid a]

/-- The same text comes out, or the same error. For a fix that is not valid it is enough that
validation does not depend on the order. -/
theorem apply_eq_of_relisted (h : Relisted fix.edits other.edits) (source : String) :
    other.apply source = fix.apply source := by
  have hvalidate : other.validate = fix.validate := validate_eq_of_perm h.perm
  rcases hvalid : fix.validate with error | ⟨⟩
  · rw [apply_of_invalid fix source hvalid, apply_of_invalid other source (hvalidate.trans hvalid)]
  · rw [apply_of_valid fix source hvalid, apply_of_valid other source (hvalidate.trans hvalid),
      sortedEdits_eq_of_relisted h hvalid]

end Relisted

/-! ### The size of the result -/

/-- **The pass keeps count**: of the rest of the text, it gives what the edits do not cover and the
replacements. -/
theorem size_splice {source : String} {done rest output : List Char} {edits : List TextEdit}
    (hsource : source.toList = done ++ rest) (hline : InLine (Text.byteCount done) edits)
    (hfits : ∀ edit ∈ edits, Fits source edit)
    (h : splice source.utf8ByteSize (Text.byteCount done) rest edits = .ok output) :
    coveredBytes edits ≤ Text.byteCount rest ∧
      Text.byteCount output = Text.byteCount rest - coveredBytes edits + insertedBytes edits := by
  induction edits generalizing done rest output with
  | nil =>
    obtain rfl := Except.ok.inj h
    exact ⟨Nat.zero_le _, rfl⟩
  | cons edit edits ih =>
    obtain ⟨hstart, hstop, hline⟩ := hline
    obtain ⟨hfit, hfits⟩ := List.forall_mem_cons.1 hfits
    obtain ⟨kept, covered, behind, rfl, hsource', hkept, hcovered⟩ :=
      exists_parts hsource hstart hstop hfit
    rw [splice_cons_parts rfl hkept hcovered hfit.2.le_size] at h
    rcases hbehind : splice source.utf8ByteSize edit.stop behind edits with error | tail
    · rw [hbehind] at h
      cases h
    · rw [hbehind] at h
      obtain rfl := Except.ok.inj h
      rw [← hcovered] at hbehind
      obtain ⟨hle, hsize⟩ := ih hsource' (hcovered ▸ hline) hfits hbehind
      simp only [coveredBytes, insertedBytes, List.map_cons, List.sum_cons] at hle hsize ⊢
      simp only [Text.byteCount_append, Text.byteCount_toList] at hkept hcovered ⊢
      omega

/-- The size of the result is counted by the edits alone, if there is a result. -/
theorem size_of_apply {fix : Fix} {source output : String} (h : fix.apply source = .ok output) :
    coveredBytes fix.edits ≤ source.utf8ByteSize ∧
      output.utf8ByteSize =
        source.utf8ByteSize - coveredBytes fix.edits + insertedBytes fix.edits := by
  obtain ⟨hvalid, hfits⟩ := fits_of_apply fix source h
  rw [apply_of_valid fix source hvalid] at h
  rcases hsplice : splice source.utf8ByteSize 0 source.toList fix.sortedEdits with error | chars
  · rw [hsplice] at h
    cases h
  · rw [hsplice] at h
    obtain rfl := Except.ok.inj h
    have hsource : source.toList = [] ++ source.toList := rfl
    have hsize := size_splice hsource (fix.validate_eq_ok_iff.1 hvalid)
      (fun edit hedit => hfits edit (mem_sortedEdits.1 hedit)) hsplice
    -- sums do not depend on the order
    have hcovered : coveredBytes fix.sortedEdits = coveredBytes fix.edits :=
      (fix.sortedEdits_perm.map _).sum_eq
    have hinserted : insertedBytes fix.sortedEdits = insertedBytes fix.edits :=
      (fix.sortedEdits_perm.map _).sum_eq
    rwa [hcovered, hinserted, Text.byteCount_toList, ← Text.utf8ByteSize_ofList] at hsize

/-- **The order in which edits are listed does not matter**, except between insertions at one point:
two fixes that differ in the order of their edits only, and list insertions at one point in the same
order, give the same text or the same error. The text is as long as the source, less the bytes that
the edits cover, and with the bytes of the replacements. -/
theorem apply_relisted_and_size (source : String) :
    (∀ fix other : Fix, Relisted fix.edits other.edits → other.apply source = fix.apply source) ∧
    ∀ (fix : Fix) (output : String), fix.apply source = .ok output →
      coveredBytes fix.edits ≤ source.utf8ByteSize ∧
        output.utf8ByteSize =
          source.utf8ByteSize - coveredBytes fix.edits + insertedBytes fix.edits := by
  refine ⟨?_, ?_⟩
  · intro fix other h
    exact apply_eq_of_relisted h source
  · intro fix output h
    exact size_of_apply h

/-- Two insertions at the start of a replacement come first, in their own order, wherever they are
listed. Two replacements of one stretch are refused alike in both orders. -/
theorem apply_insertions_listed_apart :
    let edits : List TextEdit := [⟨3, 4, "Z"⟩, ⟨1, 3, "XY"⟩, ⟨1, 1, "1"⟩, ⟨1, 1, "2"⟩]
    let other : List TextEdit := [⟨1, 1, "1"⟩, ⟨3, 4, "Z"⟩, ⟨1, 1, "2"⟩, ⟨1, 3, "XY"⟩]
    let twice : List TextEdit := [⟨1, 3, "X"⟩, ⟨1, 3, "Y"⟩]
    Relisted edits other ∧ Fix.apply ⟨"", other⟩ "aébc" = .ok "a12XYZc" ∧
      "a12XYZc".utf8ByteSize = "aébc".utf8ByteSize - coveredBytes edits + insertedBytes edits ∧
      Relisted twice twice.reverse ∧
      Fix.apply ⟨"", twice.reverse⟩ "aébc" = .error (.overlap 1 3 1 3) := by
  intro edits other twice
  obtain ⟨hrelisted, hsize⟩ := apply_relisted_and_size "aébc"
  have hother : Relisted edits other :=
    ⟨⟨![1, 3, 0, 2], ![2, 0, 3, 1], by decide, by decide⟩, by decide, by decide⟩
  have htwice : Relisted twice twice.reverse := ⟨Fin.revPerm, by decide, by decide⟩
  have hedits : Fix.apply ⟨"", edits⟩ "aébc" = .ok "a12XYZc" := by
    have hsorted : sortedEdits ⟨"", edits⟩ =
        [⟨1, 1, "1"⟩, ⟨1, 1, "2"⟩, ⟨1, 3, "XY"⟩, ⟨3, 4, "Z"⟩] := by
      simp [edits, sortedEdits, List.mergeSort, List.MergeSort.Internal.splitInTwo, TextEdit.le]
    rw [apply, validate, hsorted]
    rfl
  have hrefused : Fix.apply ⟨"", twice⟩ "aébc" = .error (.overlap 1 3 1 3) := by
    have hsorted : sortedEdits ⟨"", twice⟩ = twice := by
      simp [twice, sortedEdits, List.mergeSort, List.MergeSort.Internal.splitInTwo, TextEdit.le]
    rw [apply, validate, hsorted]
    rfl
  refine ⟨hother, ?_, ?_, htwice, ?_⟩
  · rw [hrelisted ⟨"", edits⟩ ⟨"", other⟩ hother, hedits]
  · exact (hsize ⟨"", edits⟩ "a12XYZc" hedits).2
  · rw [hrelisted ⟨"", twice⟩ ⟨"", twice.reverse⟩ htwice, hrefused]

end Fix

end DeclLint
