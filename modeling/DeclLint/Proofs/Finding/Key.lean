import DeclLint.Proofs.Engine.Order
import Mathlib.Data.List.Lex
import Mathlib.Data.Prod.Lex
import Mathlib.Data.String.Basic
import Mathlib.Order.Compare

/-!
# What findings are sorted and told apart by

Two functions say what the order and the equality of findings look at:

* `Violation.key` — the components of the file, the offset, the line, the column and the code, in
  lexicographic order. Findings stand in the order of their keys (`Engine.le_iff_key_le`), and tie
  when their keys are the same (`Engine.tie_iff_key_eq`);
* `Violation.view` — all parts of a finding, with the components of a file in place of its text.
  Findings are equal (`==`) when their views are (`Violation.beq_iff_view`), so `==` is an
  equivalence.

The key is a part of the view: equal findings have the same key, but a key says nothing about
severity, length, message, advice and remarks.
-/

namespace DeclLint

/-! ### Comparing by keys -/

/-- A comparison goes by a key: its outcome is how the keys compare. -/
def ComparesBy {α β : Type} [LinearOrder β] (cmp : α → α → Ordering) (key : α → β) : Prop :=
  ∀ a b, (cmp a b).Compares (key a) (key b)

namespace ComparesBy

variable {α β γ : Type} [LinearOrder β] [LinearOrder γ] {cmp cmp' : α → α → Ordering}
  {key : α → β} {key' : α → γ}

/-- To compare keys is to compare by them. -/
theorem of_key (key : α → β) : ComparesBy (compareOn key) key :=
  fun a b => (compare_iff (key a) (key b)).1 rfl

theorem on {δ : Type} (h : ComparesBy cmp key) (f : δ → α) :
    ComparesBy (fun a b => cmp (f a) (f b)) fun a => key (f a) :=
  fun a b => h (f a) (f b)

/-- **A comparison with a tie-breaker** is one by pairs of keys, in the lexicographic order. -/
theorem lex (h : ComparesBy cmp key) (h' : ComparesBy cmp' key') :
    ComparesBy (compareLex cmp cmp') fun a => toLex (key a, key' a) := by
  intro a b
  have hab := h a b
  have hab' := h' a b
  rw [compareLex]
  rcases hcmp : cmp a b with _ | _ | _
  · rw [hcmp] at hab
    exact Prod.Lex.toLex_lt_toLex.2 (.inl hab)
  · -- the first parts are the same, so the second ones decide
    rw [hcmp] at hab
    have hkey : key a = key b := hab
    rcases hcmp' : cmp' a b with _ | _ | _
    · rw [hcmp'] at hab'
      exact Prod.Lex.toLex_lt_toLex.2 (.inr ⟨hkey, hab'⟩)
    · rw [hcmp'] at hab'
      exact congrArg toLex (Prod.ext hkey hab')
    · rw [hcmp'] at hab'
      exact Prod.Lex.toLex_lt_toLex.2 (.inr ⟨hkey.symm, hab'⟩)
  · rw [hcmp] at hab
    exact Prod.Lex.toLex_lt_toLex.2 (.inl hab)

/-- Lists are compared by the lists of keys of their elements. -/
theorem list (h : ComparesBy cmp key) : ComparesBy (List.compareLex cmp) (List.map key) := by
  intro xs
  induction xs with
  | nil =>
    intro ys
    cases ys with
    | nil => exact rfl
    | cons y ys => exact List.nil_lt_cons _ _
  | cons x xs ih =>
    intro ys
    cases ys with
    | nil => exact List.nil_lt_cons _ _
    | cons y ys =>
      have hxy := h x y
      have hrest := ih ys
      rw [List.compareLex_cons_cons, List.map_cons, List.map_cons]
      rcases hcmp : cmp x y with _ | _ | _
      · rw [hcmp] at hxy
        exact List.Lex.rel hxy
      · -- the heads are the same, so the rest decides
        rw [hcmp] at hxy
        have hkey : key x = key y := hxy
        rw [hkey]
        rcases hcompare : List.compareLex cmp xs ys with _ | _ | _
        · rw [hcompare] at hrest
          exact List.Lex.cons hrest
        · rw [hcompare] at hrest
          exact congrArg (key y :: ·) hrest
        · rw [hcompare] at hrest
          exact List.Lex.cons hrest
      · rw [hcmp] at hxy
        exact List.Lex.rel hxy

/-- A comparison by a key says "not greater" when the keys say so. -/
theorem isLE_iff (h : ComparesBy cmp key) {a b : α} : (cmp a b).isLE = true ↔ key a ≤ key b := by
  have hab := h a b
  rcases hcmp : cmp a b with _ | _ | _
  · rw [hcmp] at hab
    exact iff_of_true rfl (le_of_lt hab)
  · rw [hcmp] at hab
    exact iff_of_true rfl (le_of_eq hab)
  · rw [hcmp] at hab
    exact iff_of_false Bool.false_ne_true (not_le_of_gt hab)

/-- It says "equal" when the keys are the same, which the elements need not be. -/
theorem eq_iff (h : ComparesBy cmp key) {a b : α} : cmp a b = .eq ↔ key a = key b := (h a b).eq_eq

end ComparesBy

/-! ### Keys -/

namespace Path

/-- The components of a path, each as its kind and its text. -/
def key (path : Path) : List (ℕ ×ₗ String) :=
  path.components.map fun component => toLex (component.rank, component.text)

/-- Paths are compared component by component, each by its kind first and then by its text. -/
theorem comparesBy_cmp : ComparesBy cmp key := by
  have hcomponent :
      ComparesBy Component.cmp fun component => toLex (component.rank, component.text) :=
    (ComparesBy.of_key Component.rank).lex (ComparesBy.of_key Component.text)
  exact hcomponent.list.on components

theorem Component.eq_of_rank_of_text {a b : Component} (hrank : a.rank = b.rank)
    (htext : a.text = b.text) : a = b := by
  cases a <;> cases b <;> simp_all [rank, text]

/-- Paths have the same key when they have the same components. -/
theorem key_eq_iff {a b : Path} : a.key = b.key ↔ a.components = b.components := by
  refine ⟨fun h => ?_, fun h => by rw [key, key, h]⟩
  refine List.map_injective_iff.2 (fun x y hxy => ?_) h
  have hpair := Prod.ext_iff.1 (toLex.injective hxy)
  exact Component.eq_of_rank_of_text hpair.1 hpair.2

end Path

/-- What findings are sorted by: file, offset, line, column and code. -/
def Violation.key (violation : Violation) :
    List (ℕ ×ₗ String) ×ₗ ℕ ×ₗ ℕ ×ₗ ℕ ×ₗ String :=
  let place := violation.location
  toLex (place.file.key,
    toLex (place.offset, toLex (place.line, toLex (place.column, violation.code))))

namespace Engine

/-- **Findings are compared by file, offset, line, column and code**, one after the other. -/
theorem comparesBy_cmp : ComparesBy cmp Violation.key :=
  (Path.comparesBy_cmp.on fun violation : Violation => violation.location.file).lex <|
  (ComparesBy.of_key fun violation : Violation => violation.location.offset).lex <|
  (ComparesBy.of_key fun violation : Violation => violation.location.line).lex <|
  (ComparesBy.of_key fun violation : Violation => violation.location.column).lex
    (ComparesBy.of_key Violation.code)

/-- **Findings stand in the order of their keys**, so that the order is total and transitive as that
of keys is. -/
theorem le_iff_key_le {a b : Violation} : le a b = true ↔ a.key ≤ b.key := comparesBy_cmp.isLE_iff

/-- **Findings tie when their keys are the same**, that is, when neither has to stand before the
other. -/
theorem tie_iff_key_eq {a b : Violation} : tie le a b = true ↔ a.key = b.key :=
  tie_le_iff.trans comparesBy_cmp.eq_iff

end Engine

/-! ### Views -/

instance : LawfulBEq Suggestion where
  rfl {suggestion} := by
    change (suggestion.message == suggestion.message && suggestion.fix == suggestion.fix) = true
    simp
  eq_of_beq {a b} h := by
    change (a.message == b.message && a.fix == b.fix) = true at h
    obtain ⟨hmessage, hfix⟩ := Bool.and_eq_true_iff.1 h
    cases a
    cases b
    simp_all

/-- What tells places apart: the components of the file, and the numbers. -/
def Location.view (location : Location) : List Path.Component × ℕ × ℕ × ℕ × ℕ :=
  (location.file.components, location.line, location.column, location.offset, location.length)

/-- Places are equal when their views are: paths count by their components, not by their texts. -/
theorem Location.beq_iff_view {a b : Location} : (a == b) = true ↔ a.view = b.view := by
  have hfile : (a.file == b.file) = true ↔ a.file.components = b.file.components :=
    @beq_iff_eq _ _ _ a.file.components b.file.components
  rw [Location.beq_iff, hfile]
  simp only [view, Prod.mk.injEq]

/-- What tells remarks apart. -/
def Label.view (label : Label) : (List Path.Component × ℕ × ℕ × ℕ × ℕ) × String :=
  (label.location.view, label.message)

theorem Label.beq_iff_view {a b : Label} : (a == b) = true ↔ a.view = b.view := by
  have hparts : (a == b) = true ↔ (a.location == b.location) = true ∧ a.message = b.message := by
    cases a
    cases b
    simp only [BEq.beq, instBEqLabel.beq, Bool.and_eq_true, decide_eq_true_eq]
  rw [hparts, Location.beq_iff_view]
  simp only [view, Prod.mk.injEq]

theorem Label.list_beq_iff_view {xs ys : List Label} :
    (xs == ys) = true ↔ xs.map view = ys.map view := by
  induction xs generalizing ys with
  | nil => cases ys <;> simp
  | cons x xs ih =>
    cases ys with
    | nil => simp
    | cons y ys => simp [Label.beq_iff_view, ih]

namespace Violation

/-- What tells findings apart: all their parts, files by their components. -/
def view (violation : Violation) :=
  (violation.code, violation.rule, violation.severity, violation.location.view, violation.message,
    violation.suggestion, violation.labels.map Label.view)

/-- **Findings are equal when their views are.** A view leaves out what the comparison passes over,
and no more, so that equality of findings is an equivalence. -/
theorem beq_iff_view {a b : Violation} : (a == b) = true ↔ a.view = b.view := by
  rw [Violation.beq_iff, Location.beq_iff_view, Label.list_beq_iff_view, beq_iff_eq]
  simp only [view, Prod.mk.injEq]

instance : EquivBEq Violation where
  rfl := beq_iff_view.2 rfl
  symm h := beq_iff_view.2 (beq_iff_view.1 h).symm
  trans h h' := beq_iff_view.2 ((beq_iff_view.1 h).trans (beq_iff_view.1 h'))

/-- Equal findings tie, so that repeats come together when findings are put in order. -/
theorem key_eq_of_beq {a b : Violation} (h : (a == b) = true) : a.key = b.key :=
  Engine.comparesBy_cmp.eq_iff.1 (Engine.cmp_of_beq h)

theorem line_eq_of_beq {a b : Violation} (h : (a == b) = true) :
    a.location.line = b.location.line := by
  obtain ⟨-, -, -, hlocation, -⟩ := Violation.beq_iff.1 h
  exact (Location.beq_iff.1 hlocation).2.1

end Violation

end DeclLint
