import DeclLint.Proofs.Edit.Splice
import Mathlib.Data.List.NodupEquivFin
import Mathlib.Data.List.Permutation
import Mathlib.Data.Prod.Lex

/-!
# Neighbours tell whether edits overlap

`Fix.validate` puts the edits in order and compares each with its predecessor only. That is enough:

* **accepts** — a fix is valid exactly when no edit is inverted and no two edits overlap, wherever
  they stand in the list (`Fix.validate_eq_ok_iff_forall_places`). As long as no check has failed,
  the ends of the edits ascend with their starts, so the predecessor is the one that reaches
  furthest;
* **refuses** — an error names an inverted edit, or two edits that do overlap
  (`Fix.truthful_of_validate`);
* **order** — the outcome depends on the stretches the edits cover, and not on the order in which
  they are listed (`Fix.validate_eq_of_perm`).
-/

namespace DeclLint

namespace TextEdit

/-- Each edit starts before the other one ends. -/
def Overlaps (a b : TextEdit) : Prop := a.start < b.stop ∧ b.start < a.stop

instance (a b : TextEdit) : Decidable (a.Overlaps b) := inferInstanceAs (Decidable (_ ∧ _))

theorem Overlaps.symm {a b : TextEdit} (h : a.Overlaps b) : b.Overlaps a := ⟨h.2, h.1⟩

/-- Edits are in order by where they start and, if they start together, by where they stop. -/
theorem le_iff {a b : TextEdit} :
    a.le b = true ↔ a.start < b.start ∨ a.start = b.start ∧ a.stop ≤ b.stop := by
  simp [le]

/-- The later of two edits in order overlaps the earlier one as soon as it starts before the end of
it. An insertion at the start of the earlier edit is no exception: it would have come first. -/
theorem overlaps_iff_of_le {a b : TextEdit} (hle : a.le b = true) (hb : b.start ≤ b.stop) :
    a.Overlaps b ↔ b.start < a.stop := by
  rw [le_iff] at hle
  rw [Overlaps]
  omega

/-- The stretch an edit covers, ordered by its start and then by its end. -/
def stretch (edit : TextEdit) : Nat ×ₗ Nat := toLex (edit.start, edit.stop)

theorem le_iff_stretch_le {a b : TextEdit} : a.le b = true ↔ a.stretch ≤ b.stretch := by
  rw [le_iff, stretch, stretch, Prod.Lex.toLex_le_toLex]

end TextEdit

/-- Two elements stand at different places of a list. They may be equal. -/
def AtTwoPlaces {α : Type} (items : List α) (a b : α) : Prop :=
  ∃ i j : Nat, i ≠ j ∧ items[i]? = some a ∧ items[j]? = some b

theorem atTwoPlaces_of_sublist {α : Type} {items : List α} {a b : α} (h : [a, b].Sublist items) :
    AtTwoPlaces items a b := by
  obtain ⟨f, hf⟩ := List.sublist_iff_exists_orderEmbedding_getElem?_eq.1 h
  refine ⟨f 0, f 1, ?_, (hf 0).symm, (hf 1).symm⟩
  intro heq
  exact absurd (f.injective heq) (by decide)

theorem AtTwoPlaces.symm {α : Type} {items : List α} {a b : α} (h : AtTwoPlaces items a b) :
    AtTwoPlaces items b a := by
  obtain ⟨i, j, hne, hi, hj⟩ := h
  exact ⟨j, i, hne.symm, hj, hi⟩

/-- Rearranging a list keeps elements at different places, though not in the same order. -/
theorem atTwoPlaces_of_perm {α : Type} {given items : List α} {a b : α} (hperm : given.Perm items)
    (h : [a, b].Sublist given) : AtTwoPlaces items a b := by
  obtain ⟨pair, hpair, hsub⟩ := (hperm.subperm_left.1 h.subperm)
  rcases List.perm_pair.1 hpair with rfl | rfl
  · exact atTwoPlaces_of_sublist hsub
  · exact (atTwoPlaces_of_sublist hsub).symm

/-- A symmetric relation between all elements of a list holds at any two places of it. Equal
elements at different places count as two. -/
theorem pairwise_iff_forall_places {α : Type} {R : α → α → Prop} (symm : ∀ {a b}, R a b → R b a)
    {items : List α} : items.Pairwise R ↔ ∀ a b, AtTwoPlaces items a b → R a b := by
  constructor
  · rintro hpairs a b ⟨i, j, hne, hi, hj⟩
    obtain ⟨hilt, rfl⟩ := List.getElem?_eq_some_iff.1 hi
    obtain ⟨hjlt, rfl⟩ := List.getElem?_eq_some_iff.1 hj
    rcases Nat.lt_or_gt_of_ne hne with hlt | hgt
    · exact List.pairwise_iff_getElem.1 hpairs i j hilt hjlt hlt
    · exact symm (List.pairwise_iff_getElem.1 hpairs j i hjlt hilt hgt)
  · intro hplaces
    rw [List.pairwise_iff_forall_sublist]
    intro a b hsub
    exact hplaces a b (atTwoPlaces_of_sublist hsub)

namespace Fix

/-! ### What is accepted -/

/-- Edits stand in line when none is inverted, none begins before the cursor, and each ends before
all that follow. The ends ascend, so it does not matter which of the edits before is looked at. -/
theorem inLine_iff {cursor : Nat} {edits : List TextEdit} :
    InLine cursor edits ↔
      (∀ edit ∈ edits, cursor ≤ edit.start ∧ edit.start ≤ edit.stop) ∧
        edits.Pairwise fun a b => a.stop ≤ b.start := by
  induction edits generalizing cursor with
  | nil => simp [InLine]
  | cons edit edits ih =>
    rw [InLine, ih, List.forall_mem_cons, List.pairwise_cons]
    constructor
    · rintro ⟨hcursor, hstop, hrest, hpairs⟩
      refine ⟨⟨⟨hcursor, hstop⟩, fun later hlater => ?_⟩, fun later hlater => ?_, hpairs⟩
      · have := hrest later hlater
        omega
      · exact (hrest later hlater).1
    · rintro ⟨⟨⟨hcursor, hstop⟩, hrest⟩, hbehind, hpairs⟩
      exact ⟨hcursor, hstop, fun later hlater => ⟨hbehind later hlater, (hrest later hlater).2⟩,
        hpairs⟩

theorem sortedEdits_perm (fix : Fix) : fix.sortedEdits.Perm fix.edits :=
  List.mergeSort_perm fix.edits TextEdit.le

theorem pairwise_sortedEdits (fix : Fix) : fix.sortedEdits.Pairwise fun a b => a.le b = true :=
  List.pairwise_mergeSort TextEdit.isOrder_le.trans TextEdit.isOrder_le.total fix.edits

/-- In order of position, edits that are not inverted stand in line exactly when no two overlap. To
compare neighbours is enough. -/
theorem inLine_sortedEdits_iff (fix : Fix) (hstops : ∀ edit ∈ fix.edits, edit.start ≤ edit.stop) :
    InLine 0 fix.sortedEdits ↔ fix.edits.Pairwise fun a b => ¬ a.Overlaps b := by
  have hsorted : ∀ edit ∈ fix.sortedEdits, edit.start ≤ edit.stop :=
    fun edit hedit => hstops edit (mem_sortedEdits.1 hedit)
  have hpair {a b : TextEdit} (hsub : [a, b].Sublist fix.sortedEdits) :
      a.stop ≤ b.start ↔ ¬ a.Overlaps b := by
    have hle : a.le b = true := List.pairwise_iff_forall_sublist.1 fix.pairwise_sortedEdits hsub
    rw [TextEdit.overlaps_iff_of_le hle (hsorted b (hsub.subset (by simp))), Nat.not_lt]
  have hpairs : (fix.sortedEdits.Pairwise fun a b => a.stop ≤ b.start) ↔
      fix.sortedEdits.Pairwise fun a b => ¬ a.Overlaps b := by
    simp only [List.pairwise_iff_forall_sublist]
    exact ⟨fun h _ _ hsub => (hpair hsub).1 (h hsub), fun h _ _ hsub => (hpair hsub).2 (h hsub)⟩
  rw [inLine_iff, hpairs, fix.sortedEdits_perm.pairwise_iff fun h h' => h h'.symm]
  simp only [Nat.zero_le, true_and, and_iff_right_iff_imp]
  exact fun _ => hsorted

/-- **A fix is valid exactly when no edit is inverted and no two edits overlap.** The order in which
they are listed is no part of this. -/
theorem validate_eq_ok_iff_forall_places (fix : Fix) :
    fix.validate = .ok () ↔
      (∀ edit ∈ fix.edits, edit.start ≤ edit.stop) ∧
        ∀ a b, AtTwoPlaces fix.edits a b → ¬ a.Overlaps b := by
  rw [validate_eq_ok_iff, ← pairwise_iff_forall_places fun h h' => h h'.symm]
  constructor
  · intro hline
    have hstops : ∀ edit ∈ fix.edits, edit.start ≤ edit.stop :=
      fun edit hedit => ((inLine_iff.1 hline).1 edit (mem_sortedEdits.2 hedit)).2
    exact ⟨hstops, (fix.inLine_sortedEdits_iff hstops).1 hline⟩
  · rintro ⟨hstops, hpairs⟩
    exact (fix.inLine_sortedEdits_iff hstops).2 hpairs

/-! ### What is refused -/

/-- What `EditError` says about a list of edits is so. -/
def Truthful (edits : List TextEdit) : EditError → Prop
  | .inverted start stop =>
    stop < start ∧ ∃ edit ∈ edits, edit.start = start ∧ edit.stop = stop
  | .overlap firstStart firstStop secondStart secondStop =>
    firstStart ≤ secondStart ∧
      ∃ first second, AtTwoPlaces edits first second ∧ first.Overlaps second ∧
        first.start = firstStart ∧ first.stop = firstStop ∧
        second.start = secondStart ∧ second.stop = secondStop
  | .outOfBounds .. | .notCharBoundary _ => False

/-- **The first check that fails**: an edit is inverted, or it is not but starts before the end of
its predecessor. -/
theorem validateAfter_eq_error {previous : Option TextEdit} {edits : List TextEdit}
    {error : EditError} (h : validateAfter previous edits = .error error) :
    (∃ edit ∈ edits, edit.stop < edit.start ∧ error = .inverted edit.start edit.stop) ∨
      ∃ a b, [a, b].Sublist (previous.toList ++ edits) ∧ b.start ≤ b.stop ∧ b.start < a.stop ∧
        error = .overlap a.start a.stop b.start b.stop := by
  induction edits generalizing previous with
  | nil => cases h
  | cons edit edits ih =>
    rw [validateAfter.eq_def] at h
    dsimp only at h
    split at h
    · rename_i hinverted
      obtain rfl := Except.error.inj h
      exact .inl ⟨edit, List.mem_cons_self, hinverted, rfl⟩
    · rename_i hstop
      -- what is said about the edits behind this one holds of all of them
      have hbehind (h : validateAfter (some edit) edits = .error error) :
          (∃ later ∈ edit :: edits, later.stop < later.start ∧
            error = .inverted later.start later.stop) ∨
          ∃ a b, [a, b].Sublist (previous.toList ++ edit :: edits) ∧ b.start ≤ b.stop ∧
            b.start < a.stop ∧ error = .overlap a.start a.stop b.start b.stop := by
        rcases ih h with ⟨later, hlater, hinverted⟩ | ⟨a, b, hsub, hpair⟩
        · exact .inl ⟨later, List.mem_cons_of_mem edit hlater, hinverted⟩
        · exact .inr ⟨a, b, hsub.trans (List.sublist_append_right _ _), hpair⟩
      cases previous with
      | none => exact hbehind h
      | some before =>
        simp only at h
        split at h
        · rename_i hstart
          obtain rfl := Except.error.inj h
          refine .inr ⟨before, edit, ?_, Nat.not_lt.1 hstop, hstart, rfl⟩
          exact (List.nil_sublist edits).cons_cons edit |>.cons_cons before
        · exact hbehind h

/-- **An error names edits of the fix** that are inverted or overlap. Both edits that overlap are
named, the earlier one first. -/
theorem truthful_of_validate {fix : Fix} {error : EditError} (h : fix.validate = .error error) :
    Truthful fix.edits error := by
  rcases validateAfter_eq_error h with ⟨edit, hedit, hinverted, rfl⟩ | ⟨a, b, hsub, hb, hlt, rfl⟩
  · exact ⟨hinverted, edit, mem_sortedEdits.1 hedit, rfl, rfl⟩
  · have hle : a.le b = true := List.pairwise_iff_forall_sublist.1 fix.pairwise_sortedEdits hsub
    have hoverlaps : a.Overlaps b := (TextEdit.overlaps_iff_of_le hle hb).2 hlt
    have hstart : a.start ≤ b.start := by
      rw [TextEdit.le_iff] at hle
      omega
    exact ⟨hstart, a, b, atTwoPlaces_of_perm fix.sortedEdits_perm hsub, hoverlaps,
      rfl, rfl, rfl, rfl⟩

/-! ### The order of the edits -/

/-- Only the stretches of the edits are looked at, never the replacements. -/
theorem validateAfter_congr {previous previous' : Option TextEdit} {edits edits' : List TextEdit}
    (hprevious : previous.map TextEdit.stretch = previous'.map TextEdit.stretch)
    (hedits : edits.map TextEdit.stretch = edits'.map TextEdit.stretch) :
    validateAfter previous edits = validateAfter previous' edits' := by
  induction edits generalizing previous previous' edits' with
  | nil =>
    obtain rfl : edits' = [] := by simpa using hedits.symm
    rfl
  | cons edit edits ih =>
    obtain ⟨edit', rest, rfl, hedit, hrest⟩ := List.map_eq_cons_iff.1 hedits.symm
    obtain ⟨hstart, hstop⟩ := Prod.mk.inj hedit
    have hbehind : validateAfter (some edit) edits = validateAfter (some edit') rest :=
      ih (congrArg some hedit.symm) hrest.symm
    cases previous with
    | none =>
      obtain rfl : previous' = none := by simpa using hprevious.symm
      rw [validateAfter, validateAfter, hstart, hstop, hbehind]
    | some before =>
      obtain ⟨before', rfl, hbefore⟩ := Option.map_eq_some_iff.1 hprevious.symm
      obtain ⟨hstart', hstop'⟩ := Prod.mk.inj hbefore
      rw [validateAfter, validateAfter, hstart, hstop, hstart', hstop', hbehind]

/-- **The order in which edits are listed** does not change the outcome. Sorting may leave edits of
one stretch in either order, but these have the same ends. -/
theorem validate_eq_of_perm {fix other : Fix} (h : other.edits.Perm fix.edits) :
    other.validate = fix.validate := by
  have hperm :
      (other.sortedEdits.map TextEdit.stretch).Perm (fix.sortedEdits.map TextEdit.stretch) :=
    ((other.sortedEdits_perm.trans h).trans fix.sortedEdits_perm.symm).map _
  have hsorted (fix : Fix) : (fix.sortedEdits.map TextEdit.stretch).Pairwise (· ≤ ·) :=
    List.pairwise_map.2 (fix.pairwise_sortedEdits.imp TextEdit.le_iff_stretch_le.1)
  -- a list has one ascending order of its stretches
  have hstretches : other.sortedEdits.map TextEdit.stretch = fix.sortedEdits.map TextEdit.stretch :=
    hperm.eq_of_pairwise (fun _ _ _ _ => le_antisymm) (hsorted other) (hsorted fix)
  exact validateAfter_congr rfl hstretches

/-- **Validation decides overlap.** A fix is valid exactly when every edit starts no later than it
ends and no two edits at different places of the list overlap. Otherwise the error names an inverted
edit, or two overlapping edits with the one that starts first in front. The outcome is the same
however the edits are ordered. -/
theorem validate_decides_overlap (fix : Fix) :
    (fix.validate = .ok () ↔
      (∀ edit ∈ fix.edits, edit.start ≤ edit.stop) ∧
        ∀ a b, AtTwoPlaces fix.edits a b → ¬ a.Overlaps b) ∧
    (∀ error, fix.validate = .error error → Truthful fix.edits error) ∧
    ∀ other : Fix, other.edits.Perm fix.edits → other.validate = fix.validate :=
  ⟨fix.validate_eq_ok_iff_forall_places, fun _ => truthful_of_validate,
    fun _ => validate_eq_of_perm⟩

/-- Two insertions and a replacement that touch are accepted. With a third insertion inside the
replacement they are refused, in whatever order they are listed. -/
theorem validate_insertion_inside :
    let touching : List TextEdit := [⟨7, 7, "c"⟩, ⟨3, 7, "b"⟩, ⟨3, 3, "a"⟩]
    let inside : TextEdit := ⟨5, 5, "d"⟩
    Fix.validate ⟨"", touching⟩ = .ok () ∧
      (∀ a b, AtTwoPlaces touching a b → ¬ a.Overlaps b) ∧
      Truthful (inside :: touching) (.overlap 3 7 5 5) ∧
      Fix.validate ⟨"", touching ++ [inside]⟩ = .error (.overlap 3 7 5 5) := by
  intro touching inside
  have hvalid : Fix.validate ⟨"", touching⟩ = .ok () := by
    have hsorted : sortedEdits ⟨"", touching⟩ = touching.reverse := by
      simp [touching, sortedEdits, List.mergeSort, List.MergeSort.Internal.splitInTwo, TextEdit.le]
    rw [validate, hsorted]
    rfl
  have hrefused : Fix.validate ⟨"", inside :: touching⟩ = .error (.overlap 3 7 5 5) := by
    have hsorted : sortedEdits ⟨"", inside :: touching⟩ =
        [⟨3, 3, "a"⟩, ⟨3, 7, "b"⟩, inside, ⟨7, 7, "c"⟩] := by
      simp [inside, touching, sortedEdits, List.mergeSort, List.MergeSort.Internal.splitInTwo,
        TextEdit.le]
    rw [validate, hsorted]
    rfl
  obtain ⟨hiff, -, -⟩ := validate_decides_overlap ⟨"", touching⟩
  obtain ⟨-, htruthful, hperm⟩ := validate_decides_overlap ⟨"", inside :: touching⟩
  refine ⟨hvalid, (hiff.1 hvalid).2, htruthful _ hrefused, ?_⟩
  rw [hperm ⟨"", touching ++ [inside]⟩ (List.perm_append_singleton inside touching), hrefused]

end Fix

end DeclLint
