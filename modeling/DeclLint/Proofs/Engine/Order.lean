import DeclLint.Engine
import DeclLint.Proofs.StableSort

/-!
# The order of findings

Findings are sorted by file, offset, line, column and code. Files are compared by their components,
so two files may tie that are written in different ways. What the order says about findings:

* `Engine.isOrder_le` — it is an order to sort by;
* `Engine.cmp_eq_iff` — findings tie when their places and codes agree, so findings that tie have
  the same code;
* `Engine.cmp_of_beq` — findings that are equal tie;
* `Engine.dropRepeats_filter` — repeats may be dropped before or after findings are left out, as
  long as findings that tie are left out together;
* `Engine.dropRepeats_map` — and before or after findings are changed, as long as the same ones are
  equal.
-/

namespace DeclLint

/-- To compare by what a function gives is to compare. -/
theorem transCmp_on {α β : Type} (cmp : β → β → Ordering) [Std.TransCmp cmp] (f : α → β) :
    Std.TransCmp fun a b => cmp (f a) (f b) where
  eq_swap := Std.OrientedCmp.eq_swap
  isLE_trans := Std.TransCmp.isLE_trans

/-! ### Paths -/

namespace Path

instance : Std.TransCmp Component.cmp :=
  inferInstanceAs (Std.TransCmp (compareLex (compareOn Component.rank) (compareOn Component.text)))

instance : Std.TransCmp Path.cmp := transCmp_on (List.compareLex Component.cmp) components

theorem cmp_of_beq {a b : Path} (h : (a == b) = true) : a.cmp b = .eq := by
  have hcomponents : a.components = b.components := beq_iff_eq.1 h
  rw [cmp, hcomponents]
  exact Std.ReflCmp.compare_self

end Path

/-! ### Equal findings -/

/-- Places are compared field by field, with the file as a path and not as a text. -/
theorem Location.beq_iff {a b : Location} :
    (a == b) = true ↔ (a.file == b.file) = true ∧ a.line = b.line ∧ a.column = b.column ∧
      a.offset = b.offset ∧ a.length = b.length := by
  cases a
  cases b
  simp only [BEq.beq, instBEqLocation.beq, Bool.and_eq_true, decide_eq_true_eq]

/-- **Findings are equal** when all they say is, where places and what is added to findings have
comparisons of their own. -/
theorem Violation.beq_iff {a b : Violation} :
    (a == b) = true ↔ a.code = b.code ∧ a.rule = b.rule ∧ a.severity = b.severity ∧
      (a.location == b.location) = true ∧ a.message = b.message ∧
      (a.suggestion == b.suggestion) = true ∧ (a.labels == b.labels) = true := by
  cases a
  cases b
  simp only [BEq.beq, instBEqViolation.beq, Bool.and_eq_true, decide_eq_true_eq]

/-! ### Findings -/

namespace Engine

instance : Std.TransCmp Engine.cmp := by
  have := transCmp_on Path.cmp fun violation : Violation => violation.location.file
  unfold cmp
  infer_instance

/-- To compare the other way round gives the opposite. -/
theorem cmp_swap (a b : Violation) : cmp b a = (cmp a b).swap := Std.OrientedCmp.eq_swap

/-- The order of findings is an order to sort by: any two findings can be compared, and what stands
before a finding stands before all behind it. -/
theorem isOrder_le : IsOrder le where
  trans _ _ _ := Std.TransCmp.isLE_trans
  total a b := by
    rw [le, le, cmp_swap a b]
    cases cmp a b <;> rfl

/-- Findings tie exactly when their places and codes agree. Severity, message and advice do not come
into it, nor does the length of the place. -/
theorem cmp_eq_iff {a b : Violation} :
    cmp a b = .eq ↔ a.location.file.cmp b.location.file = .eq ∧
      a.location.offset = b.location.offset ∧ a.location.line = b.location.line ∧
      a.location.column = b.location.column ∧ a.code = b.code := by
  simp only [cmp, compareLex_eq_eq, compareOn, Std.compare_eq_iff_eq]

theorem tie_le_iff {a b : Violation} : tie le a b = true ↔ cmp a b = .eq := by
  rw [tie, le, le, cmp_swap a b]
  cases cmp a b <;> decide

/-- Equal findings tie. The converse fails, as different messages may be about one place. -/
theorem cmp_of_beq {a b : Violation} (h : (a == b) = true) : cmp a b = .eq := by
  obtain ⟨hcode, -, -, hlocation, -⟩ := Violation.beq_iff.1 h
  obtain ⟨hfile, hline, hcolumn, hoffset, -⟩ := Location.beq_iff.1 hlocation
  exact cmp_eq_iff.2 ⟨Path.cmp_of_beq hfile, hoffset, hline, hcolumn, hcode⟩

/-! ### Dropping repeats -/

theorem dropRepeatsAfter_sublist (previous : Violation) (violations : List Violation) :
    (dropRepeatsAfter previous violations).Sublist violations := by
  induction violations generalizing previous with
  | nil => exact .slnil
  | cons violation rest ih =>
    rw [dropRepeatsAfter]
    split
    · exact .cons violation (ih previous)
    · exact .cons_cons violation (ih violation)

/-- Dropping repeats leaves the other findings as they are, in their order. -/
theorem dropRepeats_sublist (violations : List Violation) :
    (dropRepeats violations).Sublist violations := by
  cases violations with
  | nil => exact .slnil
  | cons first rest => exact .cons_cons first (dropRepeatsAfter_sublist first rest)

section Repeats

variable {p : Violation → Bool}

/-- Behind a finding that is left out, nothing of what is kept repeats the finding before it: the
one left out would stand between two findings that tie, and whether a finding is kept is the same
for all that tie. -/
theorem dropRepeatsAfter_filter_of_neg {previous violation : Violation} {rest : List Violation}
    (hp : ∀ a b, cmp a b = .eq → p a = p b) (hle : le previous violation = true)
    (hsorted : (violation :: rest).Pairwise fun a b => le a b) (hprevious : p previous = true)
    (hviolation : p violation = false) :
    dropRepeatsAfter previous (rest.filter p) = dropRepeats (rest.filter p) := by
  rcases hrest : rest.filter p with _ | ⟨first, others⟩
  · rfl
  · have hfirst : first ∈ rest := (List.mem_filter.1 (hrest ▸ List.mem_cons_self)).1
    have hne : (first == previous) = false := by
      rw [Bool.eq_false_iff]
      intro hbeq
      have hac : tie le previous first = true := by
        rw [tie_le_iff, cmp_swap first previous, cmp_of_beq hbeq]
        rfl
      have hab := isOrder_le.tie_of_between hle (List.rel_of_pairwise_cons hsorted hfirst) hac
      rw [hp previous violation (tie_le_iff.1 hab), hviolation] at hprevious
      cases hprevious
    rw [dropRepeatsAfter, dropRepeats, hne, Bool.and_false]
    rfl

/-- What is kept of an ascending list behind `previous`, when `previous` is kept and when it is
not. -/
theorem dropRepeatsAfter_filter (hp : ∀ a b, cmp a b = .eq → p a = p b) {previous : Violation}
    {rest : List Violation} (hsorted : (previous :: rest).Pairwise fun a b => le a b) :
    (dropRepeatsAfter previous rest).filter p =
      if p previous then dropRepeatsAfter previous (rest.filter p)
      else dropRepeats (rest.filter p) := by
  induction rest generalizing previous with
  | nil => cases p previous <;> rfl
  | cons violation rest ih =>
    have hle : le previous violation = true :=
      List.rel_of_pairwise_cons hsorted List.mem_cons_self
    rw [dropRepeatsAfter]
    split
    · -- a repeat is kept or left out together with what it repeats
      rename_i hrepeat
      have hbeq := (Bool.and_eq_true_iff.1 hrepeat).2
      have hsame : p violation = p previous := hp violation previous (cmp_of_beq hbeq)
      have hsorted' : (previous :: rest).Pairwise fun a b => le a b :=
        hsorted.sublist (.cons_cons previous (.cons violation (.refl rest)))
      rw [ih hsorted']
      rcases hprevious : p previous with _ | _
      · rw [List.filter_cons_of_neg (by rw [hsame, hprevious]; simp)]
      · rw [List.filter_cons_of_pos (by rw [hsame, hprevious]), dropRepeatsAfter, if_pos hrepeat,
          if_pos rfl, if_pos rfl]
    · rename_i hnew
      rcases hviolation : p violation with _ | _
      · have hout : ¬ p violation = true := by simp [hviolation]
        rw [List.filter_cons_of_neg hout, List.filter_cons_of_neg hout, ih hsorted.of_cons,
          hviolation]
        rcases hprevious : p previous with _ | _
        · rfl
        · exact (dropRepeatsAfter_filter_of_neg hp hle hsorted.of_cons hprevious hviolation).symm
      · rw [List.filter_cons_of_pos hviolation, List.filter_cons_of_pos hviolation,
          ih hsorted.of_cons, hviolation]
        cases p previous with
        | false => rfl
        | true => rw [if_pos rfl, if_pos rfl, dropRepeatsAfter, if_neg hnew]

/-- **Dropping repeats commutes with leaving findings out** of an ascending list, when findings that
tie are kept or left out together. -/
theorem dropRepeats_filter (hp : ∀ a b, cmp a b = .eq → p a = p b) {violations : List Violation}
    (hsorted : violations.Pairwise fun a b => le a b) :
    (dropRepeats violations).filter p = dropRepeats (violations.filter p) := by
  cases violations with
  | nil => rfl
  | cons first rest =>
    rw [dropRepeats]
    rcases hfirst : p first with _ | _
    · have hout : ¬ p first = true := by simp [hfirst]
      rw [List.filter_cons_of_neg hout, List.filter_cons_of_neg hout,
        dropRepeatsAfter_filter hp hsorted, hfirst]
      rfl
    · rw [List.filter_cons_of_pos hfirst, List.filter_cons_of_pos hfirst,
        dropRepeatsAfter_filter hp hsorted, hfirst]
      rfl

end Repeats

section Map

variable {f : Violation → Violation}

/-- The step of the next lemma: what is dropped behind `previous` is the same before and after the
change. -/
theorem dropRepeatsAfter_map (hline : ∀ a, (f a).location.line = a.location.line)
    {previous : Violation} {rest : List Violation}
    (hbeq : ∀ a ∈ rest, ∀ b ∈ previous :: rest, (f a == f b) = (a == b)) :
    dropRepeatsAfter (f previous) (rest.map f) = (dropRepeatsAfter previous rest).map f := by
  induction rest generalizing previous with
  | nil => rfl
  | cons violation rest ih =>
    rw [List.map_cons, dropRepeatsAfter, dropRepeatsAfter, hline,
      hbeq violation List.mem_cons_self previous List.mem_cons_self]
    split
    · refine ih fun a ha b hb => hbeq a (List.mem_cons_of_mem violation ha) b ?_
      exact List.cons_subset_cons previous (List.subset_cons_self violation rest) hb
    · rw [List.map_cons, ih fun a ha b hb =>
        hbeq a (List.mem_cons_of_mem violation ha) b (List.mem_cons_of_mem previous hb)]

/-- **Dropping repeats commutes with changing findings**, as long as those that were equal stay
equal and no others become so. -/
theorem dropRepeats_map (hline : ∀ a, (f a).location.line = a.location.line)
    {violations : List Violation}
    (hbeq : ∀ a ∈ violations, ∀ b ∈ violations, (f a == f b) = (a == b)) :
    dropRepeats (violations.map f) = (dropRepeats violations).map f := by
  cases violations with
  | nil => rfl
  | cons first rest =>
    rw [List.map_cons, dropRepeats, dropRepeats, List.map_cons,
      dropRepeatsAfter_map hline fun a ha b hb => hbeq a (List.mem_cons_of_mem first ha) b hb]

end Map

end Engine

end DeclLint
