/-!
# Stable sorting

Edits and findings are put in order by a stable merge sort. This module says what such a sort yields
without the algorithm, and what follows from that:

* `IsStableSort` — the same elements in ascending order, where elements that tie stand as before;
* `isStableSort_mergeSort` — the merge sort yields it;
* `eq_of_filter_tie_eq` — nothing else does: a list in ascending order is given by its classes of
  ties;
* `mergeSort_filter` — leaving elements out before or after sorting comes to the same.
-/

namespace DeclLint

variable {α : Type} {le : α → α → Bool}

/-- A comparison to sort by: it is transitive, and any two elements are comparable. -/
structure IsOrder (le : α → α → Bool) : Prop where
  /-- what stands before stands before everything behind -/
  trans : ∀ a b c, le a b → le b c → le a c
  /-- any two elements can be put in order -/
  total : ∀ a b, le a b || le b a

/-- Whether neither of two elements has to stand before the other. -/
def tie (le : α → α → Bool) (a b : α) : Bool := le a b && le b a

/-- `sorted` is `given`, put in order by a stable sort. -/
structure IsStableSort (le : α → α → Bool) (given sorted : List α) : Prop where
  /-- no element is lost, added or repeated -/
  perm : sorted.Perm given
  /-- the elements ascend -/
  ordered : sorted.Pairwise fun a b => le a b
  /-- the elements that tie with any one stand as they stood before -/
  stable : ∀ a, sorted.filter (tie le a) = given.filter (tie le a)

/-! ### Ties -/

namespace IsOrder

variable (order : IsOrder le)
include order

theorem refl (a : α) : le a a := by
  simpa using order.total a a

theorem tie_self (a : α) : tie le a a := by
  simp [tie, order.refl a]

/-- Elements that tie with one element may stand in any order. -/
theorem le_of_tie {a b c : α} (hb : tie le a b) (hc : tie le a c) : le b c := by
  simp only [tie, Bool.and_eq_true] at hb hc
  exact order.trans b a c hb.2 hc.1

/-- What stands between two elements that tie ties with them. So in a sorted list, the elements of a
class stand together. -/
theorem tie_of_between {a b c : α} (hab : le a b) (hbc : le b c) (hac : tie le a c) :
    tie le a b := by
  simp only [tie, Bool.and_eq_true] at hac ⊢
  exact ⟨hab, order.trans b c a hbc hac.2⟩

/-- An element that heads an ascending list stands before all others of it. -/
theorem head_le {a b : α} {rest : List α} (hsort : (a :: rest).Pairwise fun a b => le a b)
    (hb : b ∈ a :: rest) : le a b := by
  rcases List.mem_cons.1 hb with rfl | hmem
  · exact order.refl b
  · exact List.rel_of_pairwise_cons hsort hmem

end IsOrder

/-! ### Uniqueness -/

/-- Two ascending lists are equal when they hold the same elements of every class of ties, in the
same order. -/
theorem eq_of_filter_tie_eq (order : IsOrder le) : ∀ {xs ys : List α},
    (xs.Pairwise fun a b => le a b) → (ys.Pairwise fun a b => le a b) →
    (∀ a, xs.filter (tie le a) = ys.filter (tie le a)) → xs = ys := by
  intro xs
  induction xs with
  | nil =>
    intro ys _ _ hties
    cases ys with
    | nil => rfl
    | cons y ys =>
      have hy := hties y
      rw [List.filter_nil, List.filter_cons_of_pos (order.tie_self y)] at hy
      cases hy
  | cons x xs ih =>
    intro ys hxs hys hties
    cases ys with
    | nil =>
      have hx := hties x
      rw [List.filter_nil, List.filter_cons_of_pos (order.tie_self x)] at hx
      cases hx
    | cons y ys =>
      -- each head occurs in the other list, so the heads tie
      have hmemx : x ∈ y :: ys := by
        have hx : x ∈ (x :: xs).filter (tie le x) := by simp [order.tie_self x]
        rw [hties x] at hx
        exact (List.mem_filter.1 hx).1
      have hmemy : y ∈ x :: xs := by
        have hy : y ∈ (y :: ys).filter (tie le y) := by simp [order.tie_self y]
        rw [← hties y] at hy
        exact (List.mem_filter.1 hy).1
      have htie : tie le x y := by
        rw [tie, order.head_le hxs hmemy, order.head_le hys hmemx]
        rfl
      -- both are the first of their class, which is the same in both lists
      have hheads := hties x
      rw [List.filter_cons_of_pos (order.tie_self x), List.filter_cons_of_pos htie] at hheads
      obtain ⟨rfl, -⟩ := List.cons.inj hheads
      have hrest : ∀ a, xs.filter (tie le a) = ys.filter (tie le a) := by
        intro a
        have ha := hties a
        by_cases hax : tie le a x
        · rw [List.filter_cons_of_pos hax, List.filter_cons_of_pos hax] at ha
          exact (List.cons.inj ha).2
        · rwa [List.filter_cons_of_neg hax, List.filter_cons_of_neg hax] at ha
      rw [ih hxs.of_cons hys.of_cons hrest]

/-! ### The merge sort -/

/-- The merge sort keeps the elements of a class of ties in their order: the class is an ascending
part of the list, so it is a part of the sorted list, and there is no room for anything else. -/
theorem filter_tie_mergeSort (order : IsOrder le) (xs : List α) (a : α) :
    (xs.mergeSort le).filter (tie le a) = xs.filter (tie le a) := by
  have hties : (xs.filter (tie le a)).Pairwise fun b c => le b c := by
    rw [List.pairwise_filter]
    exact List.pairwise_of_forall fun b c hb hc => order.le_of_tie hb hc
  have hsub : (xs.filter (tie le a)).Sublist (xs.mergeSort le) :=
    List.sublist_mergeSort order.trans order.total hties List.filter_sublist
  have hsub' := hsub.filter (tie le a)
  rw [List.filter_filter] at hsub'
  simp only [Bool.and_self] at hsub'
  exact (hsub'.eq_of_length ((List.mergeSort_perm xs le).filter (tie le a)).length_eq.symm).symm

/-- **The merge sort is a stable sort**: what it gives ascends, is a permutation, and keeps elements
that tie in their order. -/
theorem isStableSort_mergeSort (order : IsOrder le) (xs : List α) :
    IsStableSort le xs (xs.mergeSort le) where
  perm := List.mergeSort_perm xs le
  ordered := List.pairwise_mergeSort order.trans order.total xs
  stable := filter_tie_mergeSort order xs

/-- **Sorting commutes with leaving elements out.** Both sides ascend and have the same elements of
each class of ties, so they are equal. -/
theorem mergeSort_filter (order : IsOrder le) (p : α → Bool) (xs : List α) :
    (xs.mergeSort le).filter p = (xs.filter p).mergeSort le := by
  refine eq_of_filter_tie_eq order ?_ ?_ fun a => ?_
  · exact (List.pairwise_mergeSort order.trans order.total xs).filter p
  · exact List.pairwise_mergeSort order.trans order.total (xs.filter p)
  · rw [filter_tie_mergeSort order, List.filter_filter, List.filter_filter]
    simp only [Bool.and_comm (tie le a _)]
    rw [← List.filter_filter, ← List.filter_filter, filter_tie_mergeSort order]

end DeclLint
