import DeclLint.Symbol.Table
import Mathlib.Data.List.Nodup
import Mathlib.Logic.Relation

/-!
# Subtypes are what supertype lists reach

The search for a supertype works through a stack of declarations and a set of visited names. Here it
is a machine that takes one turn after the other, and its answer is compared with the chains of
names in which each name is declared with the next among its supertypes:

* **the run ends** — from any declaration the machine comes to an answer, the one `Oracle.search`
  gives (`Oracle.answers_declarationIsSubtypeOf`);
* **the answer is right** — over an oracle that files every declaration under its own name, the
  answer is yes exactly when a chain leads from the start to the name asked for.

A chain may end in a name that is not declared, but cannot go on from there. The invariant of the
run (`Oracle.Searching`) says that whatever is pending is reached, and that whatever a visited
declaration extends is visited or pending.
-/

namespace DeclLint

open Relation

namespace Oracle

variable (oracle : Oracle)

/-- The declaration of `a` is known and has a supertype that resolves to `b`. -/
def Extends (a b : String) : Prop :=
  ∃ found, oracle.declaration a = some found ∧
    ∃ entry ∈ found.supertypes, entry.typeRef.target = some b

/-- Every declaration is found under its own name only. -/
def Faithful : Prop :=
  ∀ {name : String} {found : Declaration},
    oracle.declaration name = some found → found.qualifiedName = name

/-! ### The search as a machine -/

/-- What the search keeps between two turns. -/
structure Worklist where
  /-- the names of the declarations that were expanded -/
  visited : List String
  /-- the declarations to look at, the next one first -/
  pending : List Declaration

/-- What a turn comes to. -/
inductive Turn where
  /-- the search ends -/
  | answer (found : Bool)
  /-- the search goes on -/
  | goOn (next : Worklist)

/-- One turn: takes a declaration off the stack and, unless it was visited, puts its supertypes
there. -/
def turn (name : String) (work : Worklist) : Turn :=
  match work.pending with
  | [] => .answer false
  | current :: rest =>
    if current.qualifiedName = name then
      .answer true
    else if current.qualifiedName ∈ work.visited then
      .goOn { work with pending := rest }
    else if current.supertypes.any (·.typeRef.isNamed name) then
      .answer true
    else
      .goOn ⟨current.qualifiedName :: work.visited, oracle.parents current ++ rest⟩

/-- A run of finitely many turns that ends with an answer. -/
inductive Answers (name : String) : Worklist → Bool → Prop where
  /-- the turn gives the answer -/
  | last {work : Worklist} {found : Bool} :
    oracle.turn name work = .answer found → Answers name work found
  /-- the turn leads to a worklist whose run gives the answer -/
  | next {work work' : Worklist} {found : Bool} :
    oracle.turn name work = .goOn work' → Answers name work' found → Answers name work found

variable {oracle} {name : String}

/-- Inversion for a turn that ends the search: nothing is pending, or the name is that of the next
declaration or in its supertype list. -/
theorem turn_eq_answer {work : Worklist} {found : Bool}
    (h : oracle.turn name work = .answer found) :
    (work.pending = [] ∧ found = false) ∨
      ∃ current rest, work.pending = current :: rest ∧ found = true ∧
        (current.qualifiedName = name ∨
          ∃ entry ∈ current.supertypes, entry.typeRef.target = some name) := by
  obtain ⟨visited, pending⟩ := work
  cases pending with
  | nil =>
    obtain rfl : false = found := Turn.answer.inj h
    exact .inl ⟨rfl, rfl⟩
  | cons current rest =>
    simp only [turn] at h
    split at h
    · rename_i hname
      exact .inr ⟨current, rest, rfl, (Turn.answer.inj h).symm, .inl hname⟩
    · split at h
      · cases h
      · split at h
        · rename_i hany
          obtain ⟨entry, hentry, hnamed⟩ := List.any_eq_true.1 hany
          exact .inr ⟨current, rest, rfl, (Turn.answer.inj h).symm,
            .inr ⟨entry, hentry, beq_iff_eq.1 hnamed⟩⟩
        · cases h

/-- Inversion for a turn after which the search goes on: the declaration was visited before, or it
is expanded. -/
theorem turn_eq_goOn {work work' : Worklist} (h : oracle.turn name work = .goOn work') :
    ∃ current rest, work.pending = current :: rest ∧ current.qualifiedName ≠ name ∧
      ((current.qualifiedName ∈ work.visited ∧ work' = ⟨work.visited, rest⟩) ∨
        ((∀ entry ∈ current.supertypes, entry.typeRef.target ≠ some name) ∧
          work' = ⟨current.qualifiedName :: work.visited, oracle.parents current ++ rest⟩)) := by
  obtain ⟨visited, pending⟩ := work
  cases pending with
  | nil => cases h
  | cons current rest =>
    simp only [turn] at h
    split at h
    · cases h
    · rename_i hname
      refine ⟨current, rest, rfl, hname, ?_⟩
      split at h
      · rename_i hvisited
        exact .inl ⟨hvisited, (Turn.goOn.inj h).symm⟩
      · split at h
        · cases h
        · rename_i hany
          refine .inr ⟨fun entry hentry htarget => hany ?_, (Turn.goOn.inj h).symm⟩
          exact List.any_eq_true.2 ⟨entry, hentry, beq_iff_eq.2 htarget⟩

/-- The parents of a declaration are the declarations of its supertypes, as far as these are
known. -/
theorem mem_parents {current parent : Declaration} :
    parent ∈ oracle.parents current ↔
      ∃ entry ∈ current.supertypes, ∃ target, entry.typeRef.target = some target ∧
        oracle.declaration target = some parent := by
  simp only [parents, List.mem_reverse, List.mem_filterMap, resolve, Option.bind_eq_some_iff]

/-! ### The run ends -/

/-- **The machine comes to the answer of `search`.** The names `search` may still expand are those
of `known` that the machine did not visit. -/
theorem answers_search {known visited unvisited : List String} {pending : List Declaration}
    (hnames : ∀ n ∈ oracle.names, n ∈ known)
    (hpending : ∀ declaration ∈ pending, declaration.qualifiedName ∈ known)
    (hvisited : ∀ n ∈ known, n ∈ unvisited ↔ n ∉ visited) :
    oracle.Answers name ⟨visited, pending⟩ (oracle.search name unvisited pending) := by
  fun_induction search oracle name unvisited pending generalizing visited with
  | case1 => exact .last rfl
  | case2 unvisited current rest hname =>
    refine .last ?_
    simp only [turn]
    rw [if_pos hname]
  | case3 unvisited current rest hname hmem hany =>
    have hnew : current.qualifiedName ∉ visited :=
      (hvisited _ (hpending current List.mem_cons_self)).1 hmem
    refine .last ?_
    simp only [turn]
    rw [if_neg hname, if_neg hnew, if_pos hany]
  | case4 unvisited current rest hname hmem hany ih =>
    have hnew : current.qualifiedName ∉ visited :=
      (hvisited _ (hpending current List.mem_cons_self)).1 hmem
    have hturn : oracle.turn name ⟨visited, current :: rest⟩ =
        .goOn ⟨current.qualifiedName :: visited, oracle.parents current ++ rest⟩ := by
      simp only [turn]
      rw [if_neg hname, if_neg hnew, if_neg hany]
    refine .next hturn (ih ?_ ?_)
    · intro declaration hdeclaration
      rcases List.mem_append.1 hdeclaration with hparent | hrest
      · obtain ⟨-, -, target, -, hfound⟩ := mem_parents.1 hparent
        exact hnames _ (oracle.mem_names hfound)
      · exact hpending declaration (List.mem_cons_of_mem current hrest)
    · intro n hn
      simp only [leave, List.mem_filter, bne_iff_ne, ne_eq, List.mem_cons, not_or, hvisited n hn]
      exact and_comm
  | case5 unvisited current rest hname hmem ih =>
    have hold : current.qualifiedName ∈ visited := Decidable.byContradiction fun hnew =>
      hmem ((hvisited _ (hpending current List.mem_cons_self)).2 hnew)
    have hturn : oracle.turn name ⟨visited, current :: rest⟩ = .goOn ⟨visited, rest⟩ := by
      simp only [turn]
      rw [if_neg hname, if_pos hold]
    exact .next hturn
      (ih (fun declaration hrest => hpending declaration (List.mem_cons_of_mem current hrest))
        hvisited)

/-- **The search from a declaration ends**, even where declarations extend each other: each name is
expanded once. -/
theorem answers_declarationIsSubtypeOf (start : Declaration) :
    oracle.Answers name ⟨[], [start]⟩ (oracle.declarationIsSubtypeOf start name) := by
  refine answers_search (fun n hn => List.mem_cons_of_mem start.qualifiedName hn) ?_ fun n hn => ?_
  · intro declaration hmem
    rw [List.mem_singleton.1 hmem]
    exact List.mem_cons_self
  · exact ⟨fun _ => List.not_mem_nil, fun _ => hn⟩

/-! ### The answer is right -/

/-- The invariant of a search for `name` from the declaration named `start`. -/
structure Searching (oracle : Oracle) (name start : String) (work : Worklist) : Prop where
  /-- what is pending is what the oracle knows under its name -/
  indexed : ∀ declaration ∈ work.pending,
    oracle.declaration declaration.qualifiedName = some declaration
  /-- what is pending is reached from the start -/
  reached : ∀ declaration ∈ work.pending,
    ReflTransGen oracle.Extends start declaration.qualifiedName
  /-- the start is pending or was visited -/
  started : start ∈ work.visited ∨ ∃ declaration ∈ work.pending, declaration.qualifiedName = start
  /-- what was visited is not the name -/
  missed : ∀ a ∈ work.visited, a ≠ name
  /-- what a visited declaration extends is not the name, and is pending or visited if it is
  known -/
  closed : ∀ a ∈ work.visited, ∀ b, oracle.Extends a b →
    b ≠ name ∧ ∀ found, oracle.declaration b = some found → b ∈ work.visited ∨ found ∈ work.pending

namespace Searching

variable {start : String} {work : Worklist}

theorem init {declaration : Declaration}
    (hindexed : oracle.declaration declaration.qualifiedName = some declaration) :
    Searching oracle name declaration.qualifiedName ⟨[], [declaration]⟩ where
  indexed other hmem := by rw [List.mem_singleton.1 hmem, hindexed]
  reached other hmem := by rw [List.mem_singleton.1 hmem]
  started := .inr ⟨declaration, List.mem_singleton_self declaration, rfl⟩
  missed _ hmem := absurd hmem List.not_mem_nil
  closed _ hmem := absurd hmem List.not_mem_nil

/-- Passing over a declaration that was visited keeps the invariant. What it leads to is pending or
was visited, too. -/
theorem skip (faithful : oracle.Faithful) {visited : List String} {current : Declaration}
    {rest : List Declaration}
    (inv : Searching oracle name start ⟨visited, current :: rest⟩)
    (hvisited : current.qualifiedName ∈ visited) : Searching oracle name start ⟨visited, rest⟩ where
  indexed other hmem := inv.indexed other (List.mem_cons_of_mem current hmem)
  reached other hmem := inv.reached other (List.mem_cons_of_mem current hmem)
  started := by
    rcases inv.started with hstart | ⟨other, hmem, hstart⟩
    · exact .inl hstart
    · rcases List.mem_cons.1 hmem with rfl | hrest
      · exact .inl (hstart ▸ hvisited)
      · exact .inr ⟨other, hrest, hstart⟩
  missed := inv.missed
  closed a ha b hab := by
    obtain ⟨hne, hfound⟩ := inv.closed a ha b hab
    refine ⟨hne, fun found hb => ?_⟩
    rcases hfound found hb with hold | hmem
    · exact .inl hold
    · rcases List.mem_cons.1 hmem with rfl | hrest
      · exact .inl (faithful hb ▸ hvisited)
      · exact .inr hrest

/-- Expanding a declaration keeps the invariant: its parents become pending, so that no chain
through it is lost. -/
theorem expand (faithful : oracle.Faithful) {visited : List String} {current : Declaration}
    {rest : List Declaration} (inv : Searching oracle name start ⟨visited, current :: rest⟩)
    (hname : current.qualifiedName ≠ name)
    (hentries : ∀ entry ∈ current.supertypes, entry.typeRef.target ≠ some name) :
    Searching oracle name start
      ⟨current.qualifiedName :: visited, oracle.parents current ++ rest⟩ where
  indexed other hmem := by
    rcases List.mem_append.1 hmem with hparent | hrest
    · obtain ⟨-, -, target, -, hfound⟩ := mem_parents.1 hparent
      rw [faithful hfound, hfound]
    · exact inv.indexed other (List.mem_cons_of_mem current hrest)
  reached other hmem := by
    rcases List.mem_append.1 hmem with hparent | hrest
    · obtain ⟨entry, hentry, target, htarget, hfound⟩ := mem_parents.1 hparent
      have hcurrent := inv.indexed current List.mem_cons_self
      rw [faithful hfound]
      exact (inv.reached current List.mem_cons_self).tail
        ⟨current, hcurrent, entry, hentry, htarget⟩
    · exact inv.reached other (List.mem_cons_of_mem current hrest)
  started := by
    rcases inv.started with hstart | ⟨other, hmem, hstart⟩
    · exact .inl (List.mem_cons_of_mem _ hstart)
    · rcases List.mem_cons.1 hmem with rfl | hrest
      · exact .inl (hstart ▸ List.mem_cons_self)
      · exact .inr ⟨other, List.mem_append_right _ hrest, hstart⟩
  missed a ha := by
    rcases List.mem_cons.1 ha with rfl | ha
    · exact hname
    · exact inv.missed a ha
  closed a ha b hab := by
    rcases List.mem_cons.1 ha with rfl | ha
    · -- the entries of `current` itself: those that resolve were just put on the stack
      obtain ⟨found, hfound, entry, hentry, htarget⟩ := hab
      rw [inv.indexed current List.mem_cons_self] at hfound
      obtain rfl := Option.some.inj hfound
      refine ⟨fun hb => hentries entry hentry (hb ▸ htarget), fun parent hparent => .inr ?_⟩
      exact List.mem_append_left _ (mem_parents.2 ⟨entry, hentry, b, htarget, hparent⟩)
    · obtain ⟨hne, hfound⟩ := inv.closed a ha b hab
      refine ⟨hne, fun found hb => ?_⟩
      rcases hfound found hb with hold | hmem
      · exact .inl (List.mem_cons_of_mem _ hold)
      · rcases List.mem_cons.1 hmem with rfl | hrest
        · exact .inl (faithful hb ▸ List.mem_cons_self)
        · exact .inr (List.mem_append_right _ hrest)

/-- **A turn keeps the invariant**, by the two lemmas above. -/
theorem turn (faithful : oracle.Faithful) {work' : Worklist}
    (inv : Searching oracle name start work) (h : oracle.turn name work = .goOn work') :
    Searching oracle name start work' := by
  obtain ⟨visited, pending⟩ := work
  obtain ⟨current, rest, rfl, hname, ⟨hvisited, rfl⟩ | ⟨hentries, rfl⟩⟩ := turn_eq_goOn h
  · exact inv.skip faithful hvisited
  · exact inv.expand faithful hname hentries

/-- When nothing is pending, no chain leads from a visited name to the name: a chain stays among the
visited names, except that it may end in a name that is not known. -/
theorem not_reached (inv : Searching oracle name start work) (hdone : work.pending = [])
    {a : String} (ha : a ∈ work.visited) : ¬ ReflTransGen oracle.Extends a name := by
  intro hreach
  induction hreach using ReflTransGen.head_induction_on with
  | refl => exact inv.missed name ha rfl
  | head hab hbc ih =>
    rename_i a b
    obtain ⟨hne, hfound⟩ := inv.closed a ha b hab
    rcases hbc.cases_head with rfl | ⟨c, ⟨found, hb, -⟩, -⟩
    · exact hne rfl
    · rcases hfound found hb with hvisited | hmem
      · exact ih hvisited
      · rw [hdone] at hmem
        cases hmem

/-- **The answer of a turn is right**: yes if a chain leads from the start to the name, and no
otherwise. -/
theorem answer (inv : Searching oracle name start work) {found : Bool}
    (h : oracle.turn name work = .answer found) :
    found = true ↔ ReflTransGen oracle.Extends start name := by
  rcases turn_eq_answer h with ⟨hdone, rfl⟩ | ⟨current, rest, hpending, rfl, hfound⟩
  · rcases inv.started with hstart | ⟨declaration, hmem, -⟩
    · simpa using inv.not_reached hdone hstart
    · rw [hdone] at hmem
      cases hmem
  · have hmem : current ∈ work.pending := hpending ▸ List.mem_cons_self
    have hcurrent := inv.reached current hmem
    refine ⟨fun _ => ?_, fun _ => rfl⟩
    rcases hfound with hname | ⟨entry, hentry, htarget⟩
    · exact hname ▸ hcurrent
    · exact hcurrent.tail ⟨current, inv.indexed current hmem, entry, hentry, htarget⟩

/-- **The answer of a run is right.** The induction is on the run, of which each turn keeps the
invariant. -/
theorem answers (faithful : oracle.Faithful) (inv : Searching oracle name start work) {found : Bool}
    (h : oracle.Answers name work found) :
    found = true ↔ ReflTransGen oracle.Extends start name := by
  induction h with
  | last hturn => exact inv.answer hturn
  | next hturn _ ih => exact ih (inv.turn faithful hturn)

end Searching

/-- The subtypes of a name are the known declarations from which a chain leads to it. The name
itself need not be known. -/
theorem declarationIsSubtypeOf_iff (faithful : oracle.Faithful) {declaration : Declaration}
    (hindexed : oracle.declaration declaration.qualifiedName = some declaration) :
    oracle.declarationIsSubtypeOf declaration name = true ↔
      ReflTransGen oracle.Extends declaration.qualifiedName name :=
  (Searching.init hindexed).answers faithful (answers_declarationIsSubtypeOf declaration)

/-- A type is a subtype of a name when it is resolved and a chain leads from its target there. -/
theorem isSubtypeOf_iff (faithful : oracle.Faithful) {type : TypeRef} :
    oracle.isSubtypeOf type name = true ↔
      ∃ target, type.target = some target ∧ ReflTransGen oracle.Extends target name := by
  rw [isSubtypeOf, TypeRef.isNamed, resolve]
  rcases htarget : type.target with _ | target
  · simp
  · rcases hfound : oracle.declaration target with _ | declaration
    · -- a name that is not known reaches itself only
      simp only [Option.bind_some, hfound, Bool.or_false, beq_iff_eq, Option.some.injEq,
        exists_eq_left']
      refine ⟨fun h => h ▸ .refl, fun hreach => ?_⟩
      rcases hreach.cases_head with rfl | ⟨b, ⟨found, hb, -⟩, -⟩
      · rfl
      · rw [hfound] at hb
        cases hb
    · obtain rfl := faithful hfound
      simp only [Option.bind_some, hfound, Bool.or_eq_true, beq_iff_eq, Option.some.injEq,
        exists_eq_left', declarationIsSubtypeOf_iff faithful hfound]
      exact ⟨fun h => h.elim (fun h => h ▸ .refl) id, .inr⟩

end Oracle

/-! ### Symbol tables -/

namespace SymbolTable

/-- The table has a declaration named `a` with a supertype that resolves to `b`. -/
def Extends (table : SymbolTable) (a b : String) : Prop :=
  ∃ declaration ∈ table.declarations, declaration.qualifiedName = a ∧
    ∃ entry ∈ declaration.supertypes, entry.typeRef.target = some b

/-- The declaration found under a name is the one in the table that bears it. There is one only, for
names do not repeat. -/
theorem declaration_eq_some_iff {table : SymbolTable} {name : String} {found : Declaration} :
    table.declaration name = some found ↔
      found ∈ table.declarations ∧ found.qualifiedName = name := by
  constructor
  · intro h
    exact ⟨List.mem_of_find?_eq_some h, by simpa using List.find?_some h⟩
  · rintro ⟨hmem, rfl⟩
    rcases hfind : table.declaration found.qualifiedName with _ | other
    · have hnone := List.find?_eq_none.1 hfind found hmem
      simp at hnone
    · -- both bear the same name, which occurs once
      have hother : other.qualifiedName = found.qualifiedName := by
        simpa using List.find?_some hfind
      rw [List.inj_on_of_nodup_map table.nodup (List.mem_of_find?_eq_some hfind) hmem hother]

/-- A table gives a declaration under its own name. -/
theorem faithful_oracle (table : SymbolTable) : table.oracle.Faithful :=
  fun h => (declaration_eq_some_iff.1 h).2

theorem extends_oracle (table : SymbolTable) : table.oracle.Extends = table.Extends := by
  funext a b
  apply propext
  constructor
  · rintro ⟨found, hfound, hentry⟩
    obtain ⟨hmem, hname⟩ := declaration_eq_some_iff.1 hfound
    exact ⟨found, hmem, hname, hentry⟩
  · rintro ⟨found, hmem, hname, hentry⟩
    exact ⟨found, declaration_eq_some_iff.2 ⟨hmem, hname⟩, hentry⟩

/-- **Subtypes are what supertype lists reach**, in tables of any shape. The search ends from every
declaration; a type is a subtype exactly when it is resolved and a chain of declared names leads
from its target to the name; and so for a declaration of the table itself. -/
theorem isSubtypeOf_iff_reachable (table : SymbolTable) (type : TypeRef) (name : String) :
    (∀ start, table.oracle.Answers name ⟨[], [start]⟩
      (table.oracle.declarationIsSubtypeOf start name)) ∧
    (table.oracle.isSubtypeOf type name = true ↔
      ∃ target, type.target = some target ∧ ReflTransGen table.Extends target name) ∧
    ∀ declaration, table.declaration declaration.qualifiedName = some declaration →
      (table.oracle.declarationIsSubtypeOf declaration name = true ↔
        ReflTransGen table.Extends declaration.qualifiedName name) := by
  rw [← table.extends_oracle]
  refine ⟨Oracle.answers_declarationIsSubtypeOf, Oracle.isSubtypeOf_iff table.faithful_oracle, ?_⟩
  intro declaration hindexed
  exact Oracle.declarationIsSubtypeOf_iff table.faithful_oracle hindexed

/-- Two declarations that extend each other, one of which extends a name that is not declared. Both
are below that name, and the search still ends. -/
theorem isSubtypeOf_through_cycle :
    let a := (Declaration.ofName "A" .classType).addSupertype { typeRef := .resolved "B" }
    let b := ((Declaration.ofName "B" .classType).addSupertype
      { typeRef := .resolved "A" }).addSupertype { typeRef := .resolved "C" }
    let table := (empty.insert a).insert b
    table.declaration a.qualifiedName = some a ∧
      table.oracle.declarationIsSubtypeOf a "C" = true := by
  intro a b table
  have ha : table.declaration a.qualifiedName = some a := rfl
  have hab : table.Extends "A" "B" :=
    ⟨a, List.mem_cons_self, rfl, _, List.mem_cons_self, rfl⟩
  have hbc : table.Extends "B" "C" :=
    ⟨b, List.mem_cons_of_mem a List.mem_cons_self, rfl, _,
      List.mem_cons_of_mem _ List.mem_cons_self, rfl⟩
  exact ⟨ha, ((isSubtypeOf_iff_reachable table (.resolved "A") "C").2.2 a ha).2
    (.head hab (.single hbc))⟩

end SymbolTable

end DeclLint
