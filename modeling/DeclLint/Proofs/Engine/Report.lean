import DeclLint.Proofs.Finding.Key
import DeclLint.Rules.Builtin
import Mathlib.Data.List.Chain

/-!
# What a pass reports

A pass sorts what was found and drops repeats. `Engine.IsReport` says how the report relates to the
findings, without the sort and without the loop over neighbours: keys ascend, findings of one key
stand as they were made, nothing is lost or invented, findings without a known place are all there,
and no two neighbours at a known place are equal.

Neighbours are all that is compared, and a key does not tell findings apart. So a finding may be
reported twice, when a different one with the same key was made in between, and this is the only way
(`Engine.countP_reported_le_one_iff`):

* a report has something else between two equal findings (`exists_between`), which the sort left in
  the order in which it was made;
* whatever was found as a chain without equal neighbours is reported as a chain
  (`Engine.exists_sublist_dropRepeats`), so what stands between two equal findings keeps them apart.
-/

namespace DeclLint

/-! ### Positions in lists -/

section Positions

variable {α : Type} {xs : List α}

/-- At most one element passes the test when no two positions hold elements that do. -/
theorem countP_le_one_iff {p : α → Bool} :
    xs.countP p ≤ 1 ↔ ∀ a b, [a, b].Sublist xs → p a = true → p b = true → False := by
  rw [List.countP_eq_length_filter]
  constructor
  · intro hlength a b hsub ha hb
    have hpair : [a, b].Sublist (xs.filter p) := by
      have hfilter := hsub.filter p
      rwa [List.filter_cons_of_pos ha, List.filter_cons_of_pos hb, List.filter_nil] at hfilter
    have htwo : 2 ≤ (xs.filter p).length := hpair.length_le
    omega
  · intro hnone
    rcases hfilter : xs.filter p with _ | ⟨a, _ | ⟨b, rest⟩⟩
    · exact Nat.zero_le 1
    · exact Nat.le_refl 1
    · have hmem : ∀ x ∈ [a, b], p x = true := fun x hx =>
        (List.mem_filter.1 (hfilter ▸ List.mem_append_left rest hx : x ∈ xs.filter p)).2
      have hsub : [a, b].Sublist (xs.filter p) := hfilter ▸ List.sublist_append_left [a, b] rest
      exact (hnone a b (hsub.trans List.filter_sublist) (hmem a (by simp)) (hmem b (by simp))).elim

/-- Between two elements of a chain that could not be neighbours stands the neighbour of the first.
The relation need not be transitive, or there would be nothing to show. -/
theorem exists_between {R : α → α → Prop} {a b : α} (hchain : xs.IsChain R)
    (hsub : [a, b].Sublist xs) (hab : ¬ R a b) : ∃ c, [a, c, b].Sublist xs ∧ R a c := by
  induction xs with
  | nil => cases hsub
  | cons x xs ih =>
    cases hsub with
    | cons _ hsub =>
      obtain ⟨c, hc, hac⟩ := ih (List.isChain_cons.1 hchain).2 hsub
      exact ⟨c, .cons x hc, hac⟩
    | cons_cons _ hsub =>
      cases xs with
      | nil => cases hsub
      | cons c xs =>
        have hac : R a c := (List.isChain_cons_cons.1 hchain).1
        cases hsub with
        | cons _ hb => exact ⟨c, .cons_cons a (.cons_cons c hb), hac⟩
        | cons_cons _ _ => exact absurd hac hab

end Positions

namespace Engine

/-! ### What is kept when repeats are dropped -/

/-- Findings that may stand side by side in a report. -/
def MayFollow (previous violation : Violation) : Prop :=
  previous.location.line ≠ 0 → (previous == violation) = false

/-- What is kept behind a finding differs from it, or has no known place. -/
theorem mayFollow_of_kept {previous violation : Violation}
    (h : ¬ (violation.location.line != 0 && violation == previous) = true) :
    MayFollow previous violation := by
  intro hline
  rw [Bool.eq_false_iff]
  intro hbeq
  refine h (Bool.and_eq_true_iff.2 ⟨?_, BEq.symm hbeq⟩)
  rw [← Violation.line_eq_of_beq hbeq]
  exact bne_iff_ne.2 hline

theorem isChain_dropRepeatsAfter (previous : Violation) (violations : List Violation) :
    (previous :: dropRepeatsAfter previous violations).IsChain MayFollow := by
  induction violations generalizing previous with
  | nil => exact .singleton previous
  | cons violation rest ih =>
    rw [dropRepeatsAfter]
    split
    · exact ih previous
    · rename_i hkept
      exact List.isChain_cons_cons.2 ⟨mayFollow_of_kept hkept, ih violation⟩

/-- No finding that is kept repeats its neighbour. Repeats further off may both be kept, and are,
unless sorting brings them together. -/
theorem isChain_dropRepeats (violations : List Violation) :
    (dropRepeats violations).IsChain MayFollow := by
  cases violations with
  | nil => exact .nil
  | cons first rest => exact isChain_dropRepeatsAfter first rest

theorem filter_unlocated_dropRepeatsAfter (previous : Violation) (violations : List Violation) :
    (dropRepeatsAfter previous violations).filter (·.location.line == 0) =
      violations.filter (·.location.line == 0) := by
  induction violations generalizing previous with
  | nil => rfl
  | cons violation rest ih =>
    rw [dropRepeatsAfter]
    split
    · rename_i hrepeat
      have hline : violation.location.line ≠ 0 := bne_iff_ne.1 (Bool.and_eq_true_iff.1 hrepeat).1
      rw [ih, List.filter_cons_of_neg (by simpa using hline)]
    · rw [List.filter_cons, List.filter_cons, ih]

/-- Findings without a known place are all kept, in their order: that they look alike does not say
that they are about one thing. -/
theorem filter_unlocated_dropRepeats (violations : List Violation) :
    (dropRepeats violations).filter (·.location.line == 0) =
      violations.filter (·.location.line == 0) := by
  cases violations with
  | nil => rfl
  | cons first rest =>
    rw [dropRepeats, List.filter_cons, List.filter_cons, filter_unlocated_dropRepeatsAfter]

/-- Two neighbours differ. -/
def Differ (a b : Violation) : Prop := (a == b) = false

theorem Differ.congr_left {a b c : Violation} (h : Differ a c) (hab : (a == b) = true) :
    Differ b c := by
  rw [Differ, Bool.eq_false_iff] at h ⊢
  exact fun hbc => h (PartialEquivBEq.trans hab hbc)

/-- Findings that are equal one by one. -/
def Alike (xs ys : List Violation) : Prop := xs.map Violation.view = ys.map Violation.view

theorem Alike.cons {a b : Violation} {xs ys : List Violation} (hab : (a == b) = true)
    (h : Alike xs ys) : Alike (a :: xs) (b :: ys) := by
  rw [Alike, List.map_cons, List.map_cons, Violation.beq_iff_view.1 hab, h]

/-- What is alike to a list with a head has a head too. -/
theorem Alike.exists_cons {a : Violation} {xs ys : List Violation} (h : Alike (a :: xs) ys) :
    ∃ b ys', ys = b :: ys' ∧ (a == b) = true ∧ Alike xs ys' := by
  obtain ⟨b, ys', rfl, hview, hrest⟩ := List.map_eq_cons_iff.1 (Eq.symm h)
  exact ⟨b, ys', rfl, Violation.beq_iff_view.2 hview.symm, hrest.symm⟩

/-- A chain of findings in which neighbours differ can do without a repeat of `previous`: where the
chain has it, `previous` itself may stand for it. -/
theorem exists_sublist_without_repeat {previous violation : Violation} {rest chain : List Violation}
    (hbeq : (violation == previous) = true) (hsub : chain.Sublist (previous :: violation :: rest))
    (hchain : chain.IsChain Differ) :
    ∃ chain', chain'.Sublist (previous :: rest) ∧ chain'.IsChain Differ ∧ Alike chain chain' := by
  cases hsub with
  | cons _ hsub =>
    cases hsub with
    | cons _ hsub => exact ⟨chain, .cons previous hsub, hchain, rfl⟩
    | @cons_cons tail _ _ hsub =>
      have hchain' : (previous :: tail).IsChain Differ :=
        hchain.imp_head fun hdiffer => hdiffer.congr_left hbeq
      exact ⟨previous :: tail, .cons_cons previous hsub, hchain', .cons hbeq rfl⟩
  | @cons_cons tail _ _ hsub =>
    cases hsub with
    | cons _ hsub => exact ⟨previous :: tail, .cons_cons previous hsub, hchain, rfl⟩
    | cons_cons _ _ =>
      have hdiffer : Differ previous violation := (List.isChain_cons_cons.1 hchain).1
      rw [Differ, BEq.symm hbeq] at hdiffer
      cases hdiffer

/-- The step for the next lemma: of a chain behind `previous` nothing is lost, as each repeat that
is dropped has an equal finding before it. -/
theorem exists_sublist_dropRepeatsAfter {previous : Violation} {rest chain : List Violation}
    (hsub : chain.Sublist (previous :: rest)) (hchain : chain.IsChain Differ) :
    ∃ kept, kept.Sublist (previous :: dropRepeatsAfter previous rest) ∧ Alike chain kept := by
  induction rest generalizing previous chain with
  | nil => exact ⟨chain, hsub, rfl⟩
  | cons violation rest ih =>
    rw [dropRepeatsAfter]
    split
    · -- the chain first gives up the repeat that is dropped
      rename_i hrepeat
      obtain ⟨chain', hsub', hchain', halike'⟩ :=
        exists_sublist_without_repeat (Bool.and_eq_true_iff.1 hrepeat).2 hsub hchain
      obtain ⟨kept, hkept, halike⟩ := ih hsub' hchain'
      exact ⟨kept, hkept, Eq.trans halike' halike⟩
    · cases hsub with
      | cons _ hsub =>
        obtain ⟨kept, hkept, halike⟩ := ih hsub hchain
        exact ⟨kept, .cons previous hkept, halike⟩
      | cons_cons _ hsub =>
        obtain ⟨kept, hkept, halike⟩ := ih hsub (List.isChain_cons.1 hchain).2
        exact ⟨previous :: kept, .cons_cons previous hkept, .cons BEq.rfl halike⟩

/-- **Chains are kept**: findings of which neighbours differ are reported in this order, each in
itself or in an equal one. -/
theorem exists_sublist_dropRepeats {violations chain : List Violation}
    (hsub : chain.Sublist violations) (hchain : chain.IsChain Differ) :
    ∃ kept, kept.Sublist (dropRepeats violations) ∧ Alike chain kept := by
  cases violations with
  | nil => exact ⟨chain, hsub, rfl⟩
  | cons first rest => exact exists_sublist_dropRepeatsAfter hsub hchain

/-! ### Reports -/

/-- `reported` is what a pass makes of the findings in `found`. -/
structure IsReport (found reported : List Violation) : Prop where
  /-- the keys ascend -/
  ordered : reported.Pairwise fun a b => a.key ≤ b.key
  /-- findings with the same key stand in the order in which they were made -/
  stable : ∀ key, (reported.filter (·.key = key)).Sublist (found.filter (·.key = key))
  /-- nothing is lost -/
  complete : ∀ violation ∈ found, ∃ kept ∈ reported, (violation == kept) = true
  /-- nothing is invented -/
  sound : ∀ violation ∈ reported, violation ∈ found
  /-- findings without a known place are there as often as they were made -/
  unlocated : ∀ violation, violation.location.line = 0 →
    reported.countP (· == violation) = found.countP (· == violation)
  /-- neighbours at a known place differ -/
  fresh : reported.IsChain fun a b => a.location.line ≠ 0 → (a == b) = false

/-- Sorting keeps the findings of each key in their order, for the sort is stable and findings tie
exactly when their keys are the same. -/
theorem filter_key_mergeSort (found : List Violation) (violation : Violation) :
    (found.mergeSort le).filter (·.key = violation.key) = found.filter (·.key = violation.key) := by
  have htie : ∀ a : Violation, decide (a.key = violation.key) = tie le violation a := by
    intro a
    rw [Bool.eq_iff_iff, decide_eq_true_iff, tie_iff_key_eq]
    exact eq_comm
  simp only [htie]
  exact filter_tie_mergeSort isOrder_le found violation

/-- What equals a finding without a known place has none either, so it is counted among those. -/
theorem countP_unlocated {violation : Violation} (hline : violation.location.line = 0)
    (violations : List Violation) :
    violations.countP (· == violation) =
      (violations.filter (·.location.line == 0)).countP (· == violation) := by
  rw [List.countP_filter]
  refine List.countP_congr fun a _ => ?_
  rw [Bool.and_eq_true]
  exact ⟨fun h => ⟨h, beq_iff_eq.2 ((Violation.line_eq_of_beq h).trans hline)⟩, fun h => h.1⟩

/-- **Sorting and dropping repeats makes a report**: the findings ascend, none is lost or made up,
and neighbours at a known place differ. -/
theorem isReport_dropRepeats (found : List Violation) :
    IsReport found (dropRepeats (found.mergeSort le)) where
  ordered := by
    have hsorted := (isStableSort_mergeSort isOrder_le found).ordered
    exact (hsorted.sublist (dropRepeats_sublist _)).imp le_iff_key_le.1
  stable key := by
    by_cases hkey : ∃ violation ∈ found, violation.key = key
    · obtain ⟨violation, -, rfl⟩ := hkey
      rw [← filter_key_mergeSort found]
      exact (dropRepeats_sublist _).filter _
    · -- a key that no finding has
      have hnone : (dropRepeats (found.mergeSort le)).filter (·.key = key) = [] := by
        refine List.filter_eq_nil_iff.2 fun violation hmem hviolation => hkey ⟨violation, ?_, ?_⟩
        · exact List.mem_mergeSort.1 ((dropRepeats_sublist _).subset hmem)
        · exact of_decide_eq_true hviolation
      rw [hnone]
      exact List.nil_sublist _
  complete violation hmem := by
    have hsub : [violation].Sublist (found.mergeSort le) :=
      List.singleton_sublist.2 (List.mem_mergeSort.2 hmem)
    obtain ⟨kept, hkept, halike⟩ := exists_sublist_dropRepeats hsub (.singleton violation)
    obtain ⟨other, rest, rfl, hbeq, -⟩ := halike.exists_cons
    exact ⟨other, hkept.subset List.mem_cons_self, hbeq⟩
  sound violation hmem := List.mem_mergeSort.1 ((dropRepeats_sublist _).subset hmem)
  unlocated violation hline := by
    rw [countP_unlocated hline, filter_unlocated_dropRepeats, ← countP_unlocated hline]
    exact (List.mergeSort_perm found le).countP_eq _
  fresh := isChain_dropRepeats _

section Pass

variable {ρ : Type} [LintRule ρ] (engine : Engine ρ) (oracle : Oracle)
  (units : List CompilationUnit)

/-- What a pass finds, unit by unit. -/
def found : List Violation := units.flatMap (engine.analyzeUnit oracle)

/-- What a pass reports about the units, behind the findings about the settings. -/
def reported : List Violation :=
  (engine.analyze oracle units).violations.drop engine.settingsViolations.length

/-- What is reported about units is what stands behind the findings about the settings. -/
theorem reported_eq : engine.reported oracle units =
    dropRepeats ((engine.found oracle units).mergeSort le) := List.drop_left

/-- **A pass reports what it finds**, behind the findings about the settings, which are neither
sorted nor dropped. -/
theorem analyze_isReport :
    (engine.analyze oracle units).unitsChecked = units.length ∧
    (engine.analyze oracle units).violations =
      engine.settingsViolations ++ engine.reported oracle units ∧
    IsReport (engine.found oracle units) (engine.reported oracle units) := by
  have hreport := isReport_dropRepeats (engine.found oracle units)
  rw [reported_eq]
  exact ⟨rfl, rfl, hreport⟩

end Pass

/-! ### Findings reported twice -/

/-- Findings with one key stand in the sorted list in the order in which they were made. -/
theorem sublist_mergeSort {found chain : List Violation} {violation : Violation}
    (hkey : ∀ a ∈ chain, a.key = violation.key) (hsub : chain.Sublist found) :
    chain.Sublist (found.mergeSort le) := by
  have hall : chain.filter (·.key = violation.key) = chain :=
    List.filter_eq_self.2 fun a ha => decide_eq_true (hkey a ha)
  have hfilter := hsub.filter (·.key = violation.key)
  rw [hall, ← filter_key_mergeSort] at hfilter
  exact hfilter.trans List.filter_sublist

/-- Between two equal findings that are both reported, a different one with the same key was made.
Neither of the two could be the neighbour of the other. -/
theorem exists_differing_of_reported_twice {found reported : List Violation}
    (hreport : IsReport found reported) {a b : Violation} (hline : a.location.line ≠ 0)
    (hbeq : (a == b) = true) (hsub : [a, b].Sublist reported) :
    ∃ c, [a, c, b].Sublist found ∧ c.key = a.key ∧ (a == c) = false := by
  have hnot : ¬ (a.location.line ≠ 0 → (a == b) = false) := fun h =>
    Bool.false_ne_true ((h hline).symm.trans hbeq)
  obtain ⟨c, hc, hac⟩ := exists_between hreport.fresh hsub hnot
  -- keys ascend, so `c` has no other key than the two around it
  have hordered := hreport.ordered.sublist hc
  have hba : b.key = a.key := (Violation.key_eq_of_beq hbeq).symm
  have hkey : c.key = a.key := by
    simp only [List.pairwise_cons, List.mem_cons, List.not_mem_nil, or_false] at hordered
    have hle : a.key ≤ c.key := hordered.1 c (.inl rfl)
    have hge : c.key ≤ b.key := hordered.2.1 b rfl
    exact le_antisymm (hba ▸ hge) hle
  refine ⟨c, ?_, hkey, hac hline⟩
  have hfilter := hc.filter (·.key = a.key)
  have hall : [a, c, b].filter (·.key = a.key) = [a, c, b] := by simp [hkey, hba]
  rw [hall] at hfilter
  exact (hfilter.trans (hreport.stable a.key)).trans List.filter_sublist

/-- Two equal findings with a different one of the same key in between are both reported. Sorting
leaves the three in their order, as all have one key. -/
theorem exists_reported_twice {found : List Violation} {a b c : Violation}
    (hsub : [a, c, b].Sublist found) (hab : (a == b) = true) (hkey : c.key = a.key)
    (hac : (a == c) = false) :
    ∃ a' b', [a', b'].Sublist (dropRepeats (found.mergeSort le)) ∧ (a == a') = true ∧
      (a == b') = true := by
  have hba : b.key = a.key := (Violation.key_eq_of_beq hab).symm
  have hkeys : ∀ x ∈ [a, c, b], x.key = a.key := by simp [hkey, hba]
  have hcb : Differ c b := by
    rw [Differ, Bool.eq_false_iff]
    intro h
    rw [PartialEquivBEq.trans hab (BEq.symm h)] at hac
    cases hac
  have hchain : [a, c, b].IsChain Differ :=
    List.isChain_cons_cons.2 ⟨hac, List.isChain_cons_cons.2 ⟨hcb, .singleton b⟩⟩
  obtain ⟨kept, hkept, halike⟩ :=
    exists_sublist_dropRepeats (sublist_mergeSort hkeys hsub) hchain
  obtain ⟨a', rest, rfl, ha', hrest⟩ := halike.exists_cons
  obtain ⟨c', rest', rfl, -, hrest'⟩ := hrest.exists_cons
  obtain ⟨b', rest'', rfl, hb', -⟩ := hrest'.exists_cons
  refine ⟨a', b', ?_, ha', PartialEquivBEq.trans hab hb'⟩
  have hpair : [a', b'].Sublist (a' :: c' :: b' :: rest'') :=
    .cons_cons a' (.cons c' (.cons_cons b' (List.nil_sublist rest'')))
  exact hpair.trans hkept

/-- **A finding at a known place is reported once** unless a different finding with the same key was
made in between. Repeats are only dropped next to each other, and what ties is left in the order in
which it was made. -/
theorem countP_reported_le_one_iff {ρ : Type} [LintRule ρ] (engine : Engine ρ) (oracle : Oracle)
    (units : List CompilationUnit) (violation : Violation) (hline : violation.location.line ≠ 0) :
    (engine.reported oracle units).countP (· == violation) ≤ 1 ↔
      ∀ a b c, [a, c, b].Sublist (engine.found oracle units) → (a == violation) = true →
        (b == violation) = true → c.key = violation.key → (c == violation) = true := by
  rw [reported_eq, countP_le_one_iff]
  constructor
  · intro hnone a b c hsub ha hb hkey
    by_contra hc
    have hac : (a == c) = false := by
      rw [Bool.eq_false_iff]
      exact fun h => hc (PartialEquivBEq.trans (BEq.symm h) ha)
    obtain ⟨a', b', hsub', ha', hb'⟩ :=
      exists_reported_twice hsub (PartialEquivBEq.trans ha (BEq.symm hb))
        (hkey.trans (Violation.key_eq_of_beq ha).symm) hac
    exact hnone a' b' hsub' (PartialEquivBEq.trans (BEq.symm ha') ha)
      (PartialEquivBEq.trans (BEq.symm hb') ha)
  · intro hall a b hsub ha hb
    have hline' : a.location.line ≠ 0 := by rwa [Violation.line_eq_of_beq ha]
    obtain ⟨c, hc, hkey, hac⟩ := exists_differing_of_reported_twice (isReport_dropRepeats _) hline'
      (PartialEquivBEq.trans ha (BEq.symm hb)) hsub
    have hbeq := hall a b c hc ha hb (hkey.trans (Violation.key_eq_of_beq ha))
    rw [PartialEquivBEq.trans ha (BEq.symm hbeq)] at hac
    cases hac

/-- A rule registered twice makes its finding twice and has it reported once: there is no third
finding that could stand between the two. -/
theorem countP_reported_of_rule_registered_twice :
    let place : Range := ⟨⟨1, 1, 0⟩, ⟨1, 6, 5⟩⟩
    let fetch : Member :=
      { kind := .method, name := "fetch", annotations := [⟨"GET", none⟩], nameRange := some place }
    let api := (Declaration.ofName "Api" .interface).addMember fetch
    let unit : CompilationUnit := { path := ⟨"Api.kt"⟩, declarations := [api] }
    let tag : RequiredTag := { remoteOperations := ["GET"], tagMarker := "Tag", tagBase := "Trace" }
    let engine := build [Builtin.requiredTag tag, Builtin.requiredTag tag] [] [] {}
    let oracle := (SymbolTable.ofUnits [unit]).oracle
    let finding := tag.missingTag ⟨unit, oracle⟩ fetch
    finding.location.line ≠ 0 ∧ (engine.found oracle [unit]).countP (· == finding) = 2 ∧
      (engine.reported oracle [unit]).countP (· == finding) ≤ 1 := by
  intro place fetch api unit tag engine oracle finding
  have hlength : (engine.found oracle [unit]).length = 2 := by decide +kernel
  refine ⟨by decide +kernel, by decide +kernel, ?_⟩
  refine (countP_reported_le_one_iff engine oracle [unit] finding (by decide +kernel)).2 ?_
  intro a b c hsub
  have hthree : 3 ≤ (engine.found oracle [unit]).length := hsub.length_le
  omega

/-- A rule registered twice, with the same rule for another tag in between: its finding is reported
twice. -/
theorem not_reported_once_around_other_tag :
    let place : Range := ⟨⟨1, 1, 0⟩, ⟨1, 6, 5⟩⟩
    let fetch : Member :=
      { kind := .method, name := "fetch", annotations := [⟨"GET", none⟩], nameRange := some place }
    let api := (Declaration.ofName "Api" .interface).addMember fetch
    let unit : CompilationUnit := { path := ⟨"Api.kt"⟩, declarations := [api] }
    let tag (base : String) : RequiredTag :=
      { remoteOperations := ["GET"], tagMarker := "Tag", tagBase := base }
    let engine := build [Builtin.requiredTag (tag "Trace"), .requiredTag (tag "Span"),
      .requiredTag (tag "Trace")] [] [] {}
    ¬ (engine.reported (SymbolTable.ofUnits [unit]).oracle [unit]).Pairwise fun a b =>
      a.location.line ≠ 0 → (a == b) = false := by
  intro place fetch api unit tag engine hpairwise
  let oracle := (SymbolTable.ofUnits [unit]).oracle
  let finding (base : String) := (tag base).missingTag ⟨unit, oracle⟩ fetch
  have hfound : engine.found oracle [unit] =
      [finding "Trace", finding "Span", finding "Trace"] := by
    rfl
  rw [reported_eq, hfound] at hpairwise
  obtain ⟨a, b, hsub, ha, hb⟩ := exists_reported_twice (.refl _) BEq.rfl
    (by rfl : (finding "Span").key = (finding "Trace").key) (by decide +kernel)
  have hline : a.location.line ≠ 0 := by
    rw [← Violation.line_eq_of_beq ha]
    decide +kernel
  have hdiffer := (List.pairwise_cons.1 (hpairwise.sublist hsub)).1 b List.mem_cons_self hline
  rw [PartialEquivBEq.trans (BEq.symm ha) hb] at hdiffer
  cases hdiffer

end Engine

end DeclLint
