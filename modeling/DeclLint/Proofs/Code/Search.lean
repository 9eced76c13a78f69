import DeclLint.Proofs.Code.Places

/-!
# What a search finds

A search walks through an expression and halts at the first node that passes its test. No place is
left out, and the node at which it halts stands before all others that pass:

* `Expr.walk_search_halts_iff` — a search halts exactly when an expression at some place passes;
* `Expr.walkCalls_search_eq_some_iff` — it finds the first call that passes, in the order of the
  source (`IsFirst`);
* `Expr.mem_calls_iff` — the calls of an expression are those at its places.

What stands at a place of a part stands at a place of the whole (`Expr.at?_append`).
-/

namespace DeclLint

/-! ### First places -/

/-- Of two places, at most one stands before the other, so that a first place is first for good. -/
theorem Place.Before.asymm {p q : Place} (h : p.Before q) : ¬ q.Before p := by
  induction p generalizing q with
  | nil => rcases q with _ | ⟨_ | _, _⟩ <;> simp_all [Before]
  | cons step p ih =>
    rcases q with _ | ⟨step', q⟩
    · cases step <;> simp_all [Before]
    · rcases step with _ | i <;> rcases step' with _ | j
      · exact ih h
      · exact id
      · cases h
      · rintro (hlt | ⟨rfl, hbefore⟩)
        · rcases h with hgt | ⟨rfl, -⟩ <;> omega
        · rcases h with hgt | ⟨-, h⟩
          · omega
          · exact ih h hbefore

/-- At `place` stands `a`, which passes the test, and whatever else passes stands behind it. -/
structure IsFirst {α : Type} (look : Place → Option α) (test : α → Prop) (place : Place) (a : α) :
    Prop where
  /-- what stands at the place -/
  holds : look place = some a
  /-- the test is passed -/
  passes : test a
  /-- everything else that passes stands behind the place -/
  first : ∀ other b, look other = some b → test b → other = place ∨ place.Before other

namespace IsFirst

variable {α : Type} {look : Place → Option α} {test : α → Prop} {place place' : Place} {a a' : α}

/-- There is one first place only. Of two, each would stand before the other. -/
theorem unique (h : IsFirst look test place a) (h' : IsFirst look test place' a') : a = a' := by
  have hsame : place' = place := by
    rcases h.first place' a' h'.holds h'.passes with heq | hbefore
    · exact heq
    · rcases h'.first place a h.holds h.passes with heq | hbefore'
      · exact heq.symm
      · exact absurd hbefore' hbefore.asymm
  have hholds := h'.holds
  rw [hsame, h.holds] at hholds
  exact Option.some.inj hholds

end IsFirst

namespace Lists

variable {α : Type} {look : Place → Option α} {places : List Place} {found : List α}

/-- **What is listed is what stands at the places**, so a list may be searched in place of an
expression. -/
theorem mem_iff (h : Lists look places found) {a : α} :
    a ∈ found ↔ ∃ place, look place = some a := by
  constructor
  · intro ha
    have hmem : some a ∈ places.map look := h.holds ▸ List.mem_map_of_mem ha
    obtain ⟨place, -, hplace⟩ := List.mem_map.1 hmem
    exact ⟨place, hplace⟩
  · rintro ⟨place, hplace⟩
    have hmem : look place ∈ found.map some :=
      h.holds ▸ List.mem_map_of_mem (h.complete place a hplace)
    rw [hplace] at hmem
    obtain ⟨b, hb, heq⟩ := List.mem_map.1 hmem
    rwa [← Option.some.inj heq]

/-- **The first of a list stands before all others**, as lists have their places in order. -/
theorem exists_isFirst (h : Lists look places found) {test : α → Bool} {a : α}
    (hfind : found.find? test = some a) : ∃ place, IsFirst look (test · = true) place a := by
  obtain ⟨hpasses, earlier, later, hfound, hearlier⟩ := List.find?_eq_some_iff_append.1 hfind
  have hholds := h.holds
  rw [hfound, List.map_append, List.map_cons] at hholds
  obtain ⟨front, back, hplaces, hfront, hback⟩ := List.map_eq_append_iff.1 hholds
  obtain ⟨place, behind, rfl, hplace, -⟩ := List.map_eq_cons_iff.1 hback
  refine ⟨place, hplace, hpasses, fun other b hother hb => ?_⟩
  have hmem := h.complete other b hother
  rw [hplaces, List.mem_append, List.mem_cons] at hmem
  rcases hmem with hmem | heq | hmem
  · -- what is listed earlier does not pass
    have hlisted : look other ∈ earlier.map some := hfront ▸ List.mem_map_of_mem hmem
    rw [hother] at hlisted
    obtain ⟨c, hc, heq⟩ := List.mem_map.1 hlisted
    obtain rfl := Option.some.inj heq
    have hfails := hearlier c hc
    rw [hb] at hfails
    cases hfails
  · exact .inl heq
  · have hsorted := h.sorted
    rw [hplaces] at hsorted
    have hbehind := (List.pairwise_cons.1 (List.pairwise_append.1 hsorted).2.1).1
    exact .inr (hbehind other hmem)

theorem find?_isSome_iff (h : Lists look places found) {test : α → Bool} :
    (found.find? test).isSome ↔ ∃ place a, look place = some a ∧ test a = true := by
  rw [List.find?_isSome]
  constructor
  · rintro ⟨a, ha, htest⟩
    obtain ⟨place, hplace⟩ := h.mem_iff.1 ha
    exact ⟨place, a, hplace, htest⟩
  · rintro ⟨place, a, hplace, htest⟩
    exact ⟨a, h.mem_iff.2 ⟨place, hplace⟩, htest⟩

/-- **Finding in a list is finding the first place.** -/
theorem find?_eq_some_iff (h : Lists look places found) {test : α → Bool} {a : α} :
    found.find? test = some a ↔ ∃ place, IsFirst look (test · = true) place a := by
  refine ⟨h.exists_isFirst, ?_⟩
  rintro ⟨place, hfirst⟩
  have hsome := h.find?_isSome_iff.2 ⟨place, a, hfirst.holds, hfirst.passes⟩
  obtain ⟨b, hb⟩ := Option.isSome_iff_exists.1 hsome
  obtain ⟨place', hfirst'⟩ := h.exists_isFirst hb
  rw [hb, hfirst'.unique hfirst]

end Lists

/-! ### Searching an expression -/

namespace Expr

/-- What stands at a place of a part stands in the whole at the two places put together. -/
theorem at?_append (expr : Expr) (p q : Place) :
    expr.at? (p ++ q) = (expr.at? p).bind (at? · q) := by
  induction p generalizing expr with
  | nil => rfl
  | cons step p ih =>
    rw [List.cons_append, at?, at?, Option.bind_assoc]
    exact congrArg _ (funext fun below => ih below)

/-- **The sub-expressions are what stands at the places**, the expression itself at the empty place
among them. -/
theorem mem_subterms_iff {expr sub : Expr} :
    sub ∈ expr.subterms ↔ ∃ place, expr.at? place = some sub := by
  obtain ⟨places, hplaces⟩ := expr.exists_lists_subterms
  exact hplaces.mem_iff

/-- **The calls of an expression are those at its places.** -/
theorem mem_calls_iff {expr : Expr} {call : Call} :
    call ∈ expr.calls ↔ ∃ place, expr.callAt? place = some call := by
  obtain ⟨places, hplaces⟩ := expr.listsCalls_calls
  exact hplaces.mem_iff

/-- **A search halts** exactly when what stands at some place passes the test. What was found before
the walk does not matter. -/
theorem walk_search_halts_iff {expr : Expr} {test : Expr → Bool} {found : Option Expr} :
    (expr.walk (Walk.search test) found).1 = .halt ↔
      ∃ place sub, expr.at? place = some sub ∧ test sub = true := by
  obtain ⟨places, hplaces⟩ := expr.exists_lists_subterms
  rw [← hplaces.find?_isSome_iff, walk_eq_each, Walk.each_search]
  rcases expr.subterms.find? test with _ | sub <;> simp

theorem walkCalls_search_eq_find? (expr : Expr) (test : Call → Bool) :
    (expr.walkCalls (Walk.search test) none).2 = expr.calls.find? test := by
  rw [walkCalls_eq_each, Walk.each_search]
  rcases expr.calls.find? test with _ | call <;> rfl

/-- **A search for calls** finds the first one that passes the test, in the order of the source. -/
theorem walkCalls_search_eq_some_iff {expr : Expr} {test : Call → Bool} {call : Call} :
    (expr.walkCalls (Walk.search test) none).2 = some call ↔
      ∃ place, IsFirst expr.callAt? (test · = true) place call := by
  obtain ⟨places, hplaces⟩ := expr.listsCalls_calls
  rw [walkCalls_search_eq_find?, hplaces.find?_eq_some_iff]

/-- A search for calls finds one if there is any that passes the test. -/
theorem walkCalls_search_isSome_iff {expr : Expr} {test : Call → Bool} :
    (expr.walkCalls (Walk.search test) none).2.isSome ↔
      ∃ place call, expr.callAt? place = some call ∧ test call = true := by
  obtain ⟨places, hplaces⟩ := expr.listsCalls_calls
  rw [walkCalls_search_eq_find?, hplaces.find?_isSome_iff]

end Expr

/-! ### Declarations -/

/-- **The calls of a declaration** are those at the places of its code. -/
theorem Declaration.mem_calls_iff {declaration : Declaration} {call : Call} :
    call ∈ declaration.calls ↔ ∃ place, declaration.code.callAt? place = some call := by
  rw [calls_eq_code, Expr.mem_calls_iff]

/-- What stands in the code of a member stands in the code of the declaration, and is found by
whoever searches that. -/
theorem Declaration.mem_calls_of_member {declaration : Declaration} {member : Member} {code : Expr}
    {place : Place} {call : Call} (hmember : member ∈ declaration.members)
    (hcode : code ∈ member.code) (hplace : code.callAt? place = some call) :
    call ∈ declaration.calls := by
  have hcall : call ∈ member.calls := by
    rw [Member.calls_eq_code]
    exact List.mem_flatMap.2 ⟨code, hcode, Expr.mem_calls_iff.2 ⟨place, hplace⟩⟩
  exact List.mem_append_right _ (List.mem_flatMap.2 ⟨member, hmember, hcall⟩)

end DeclLint
