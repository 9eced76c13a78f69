import DeclLint.Code.Walk
import DeclLint.Proofs.Symbol.Lookup
import Mathlib.Data.List.Forall2

/-!
# Code that reads alike

Two pieces of code may differ and yet give the same answers to whoever reads them. Members are
*alike* when they differ in parameters only, and then in none that was written. Some readers also
look at parameters that were not written: for a list `asked` of properties, members that are alike
have a parameter with such a property at the same places (`Member.Alike`). Declarations are alike
when their members are, one by one, wherever they were read from (`Declaration.Alike`), and oracles
when they know declarations that are alike under the same names (`Oracle.Alike`).

Oracles that are alike resolve every reference to something alike, and have the same subtypes
(`Oracle.Alike.isSubtypeOf`): the searches for a supertype go in step, turn by turn
(`Oracle.Alike.turn`). Tables of units and libraries that are alike are alike
(`SymbolTable.alike_oracle`).
-/

namespace DeclLint

/-! ### Members and declarations -/

/-- The members differ in parameters that nobody wrote, and a property in `asked` does not tell them
apart: it holds of the same places in both parameter lists. -/
structure Member.Alike (asked : List (Parameter → Bool)) (before after : Member) : Prop where
  /-- parameters are all that may differ -/
  same : after =
    { before with
      parameters := after.parameters
      syntheticContinuation := after.syntheticContinuation }
  /-- the same parameters were written -/
  userParameters : after.userParameters = before.userParameters
  /-- the same default values were written -/
  defaultValues : after.parameters.filterMap (·.defaultValue) =
    before.parameters.filterMap (·.defaultValue)
  /-- the properties hold at the same places -/
  parameters : ∀ p ∈ asked, ∀ index : Nat,
    (after.parameters[index]?).any p = (before.parameters[index]?).any p

/-- The declarations differ in where they were read from, and in members that are alike. -/
structure Declaration.Alike (asked : List (Parameter → Bool)) (before after : Declaration) :
    Prop where
  /-- members and origin are all that may differ -/
  same : after = { before with members := after.members, origin := after.origin }
  /-- the members are alike, one by one -/
  members : before.members.Forall₂ (Member.Alike asked) after.members

/-- The units differ in declarations that are alike. -/
structure CompilationUnit.Alike (asked : List (Parameter → Bool)) (before after : CompilationUnit) :
    Prop where
  /-- declarations are all that may differ -/
  same : after = { before with declarations := after.declarations }
  /-- the declarations are alike, one by one -/
  declarations : before.declarations.Forall₂ (Declaration.Alike asked) after.declarations

variable {asked : List (Parameter → Bool)}

/-- Lists that are related, element by element, give the same to functions that do not tell related
elements apart. -/
theorem flatMap_eq_of_forall₂ {α β : Type} {R : α → α → Prop} {f g : α → List β}
    (hfg : ∀ a b, R a b → g b = f a) {xs ys : List α} (h : xs.Forall₂ R ys) :
    ys.flatMap g = xs.flatMap f := by
  induction h with
  | nil => rfl
  | cons hab _ ih => rw [List.flatMap_cons, List.flatMap_cons, hfg _ _ hab, ih]

namespace Member.Alike

variable {before after : Member}

theorem refl (member : Member) : member.Alike asked member :=
  ⟨rfl, rfl, rfl, fun _ _ _ => rfl⟩

variable (h : before.Alike asked after)
include h

theorem kind : after.kind = before.kind := by rw [h.same]

theorem name : after.name = before.name := by rw [h.same]

/-- The same calls are made: they stand in the delegation, the default values and the body, which do
not differ. -/
theorem calls : after.calls = before.calls := by
  have hdelegation : after.delegation = before.delegation := by rw [h.same]
  have hbody : after.body = before.body := by rw [h.same]
  rw [Member.calls, Member.calls, h.defaultValues, hdelegation, hbody]

/-- **A property that is asked for** holds of the parameters that the same arguments are bound
to. -/
theorem any_bound {p : Parameter → Bool} (hp : p ∈ asked) (index : Option Nat) :
    (index.bind (after.parameters[·]?)).any p = (index.bind (before.parameters[·]?)).any p := by
  cases index with
  | none => rfl
  | some index => exact h.parameters p hp index

/-- A property that is asked for holds of some parameter of both members or of neither. For a
parameter has its place in the list, at which it is asked about. -/
theorem any_parameters {p : Parameter → Bool} (hp : p ∈ asked) :
    after.parameters.any p = before.parameters.any p := by
  have hplace : ∀ parameters : List Parameter,
      parameters.any p = true ↔ ∃ index : Nat, (parameters[index]?).any p = true := by
    intro parameters
    simp only [List.any_eq_true, Option.any_eq_true, List.mem_iff_getElem?]
    refine ⟨?_, ?_⟩
    · rintro ⟨parameter, ⟨index, hindex⟩, hparameter⟩
      exact ⟨index, parameter, hindex, hparameter⟩
    · rintro ⟨index, parameter, hindex, hparameter⟩
      exact ⟨parameter, ⟨index, hindex⟩, hparameter⟩
  rw [Bool.eq_iff_iff, hplace, hplace]
  simp only [h.parameters p hp]

end Member.Alike

namespace Declaration.Alike

variable {before after : Declaration}

theorem refl (declaration : Declaration) : declaration.Alike asked declaration :=
  ⟨rfl, List.forall₂_same.2 fun member _ => .refl member⟩

variable (h : before.Alike asked after)
include h

theorem qualifiedName : after.qualifiedName = before.qualifiedName := by rw [h.same]

theorem supertypes : after.supertypes = before.supertypes := by rw [h.same]

/-- **The same calls are made**, in the supertype list and in the members. -/
theorem calls : after.calls = before.calls := by
  have hmembers : after.members.flatMap Member.calls = before.members.flatMap Member.calls :=
    flatMap_eq_of_forall₂ (fun _ _ hmember => hmember.calls) h.members
  rw [Declaration.calls, Declaration.calls, h.supertypes, hmembers]

/-- Selecting members by what alike members have in common gives members that are alike. -/
theorem filter_members {p : Member → Bool}
    (hp : ∀ before after : Member, before.Alike asked after → p after = p before) :
    (before.members.filter p).Forall₂ (Member.Alike asked) (after.members.filter p) := by
  refine List.rel_filter (fun member member' hmember => ?_) h.members
  change p member = true ↔ p member' = true
  rw [hp member member' hmember]

/-- The member of a name and a number is alike in both, if there is one. -/
theorem memberNamed? (name : String) (overload : Nat) :
    Option.Rel (Member.Alike asked) (before.memberNamed? name overload)
      (after.memberNamed? name overload) := by
  have hnamed := h.filter_members (p := (·.name == name)) fun _ _ hmember => by rw [hmember.name]
  rw [Declaration.memberNamed?, Declaration.memberNamed?]
  generalize before.members.filter (·.name == name) = members,
    after.members.filter (·.name == name) = members' at hnamed
  induction hnamed generalizing overload with
  | nil => exact .none
  | cons hmember _ ih =>
    cases overload with
    | zero => exact .some hmember
    | succ overload => exact ih overload

end Declaration.Alike

theorem CompilationUnit.Alike.refl (unit : CompilationUnit) : unit.Alike asked unit :=
  ⟨rfl, List.forall₂_same.2 fun declaration _ => .refl declaration⟩

/-! ### Oracles -/

/-- The members belong to declarations that are alike, and are alike themselves. -/
structure ResolvedMember.Alike (asked : List (Parameter → Bool)) (before after : ResolvedMember) :
    Prop where
  /-- the declarations are alike -/
  owner : before.owner.Alike asked after.owner
  /-- the members are alike -/
  member : before.member.Alike asked after.member

namespace Oracle

/-- The oracles know declarations that are alike. -/
def Alike (asked : List (Parameter → Bool)) (before after : Oracle) : Prop :=
  ∀ name, Option.Rel (Declaration.Alike asked) (before.declaration name) (after.declaration name)

/-- The searches have visited the same names, and the declarations they look at next are alike. -/
structure Worklist.Alike (asked : List (Parameter → Bool)) (before after : Worklist) : Prop where
  /-- the same names were visited -/
  visited : after.visited = before.visited
  /-- the pending declarations are alike -/
  pending : before.pending.Forall₂ (Declaration.Alike asked) after.pending

/-- Both turns give the same answer, or lead to worklists that are alike. -/
inductive Turn.Alike (asked : List (Parameter → Bool)) : Turn → Turn → Prop where
  /-- the same answer -/
  | answer (found : Bool) : Turn.Alike asked (.answer found) (.answer found)
  /-- worklists that are alike -/
  | goOn {next next' : Worklist} :
    next.Alike asked next' → Turn.Alike asked (.goOn next) (.goOn next')

namespace Alike

variable {before after : Oracle}

/-- An oracle is like any that knows the same declarations, whatever is asked: a declaration is like
itself. -/
theorem of_sameDeclarations (same : before.SameDeclarations after) : before.Alike asked after := by
  intro name
  rw [same]
  rcases after.declaration name with _ | declaration
  · exact .none
  · exact .some (.refl declaration)

variable (h : before.Alike asked after)
include h

/-- **A type resolves to declarations that are alike**, or to none in both. -/
theorem resolve (type : TypeRef) :
    Option.Rel (Declaration.Alike asked) (before.resolve type) (after.resolve type) := by
  rw [Oracle.resolve, Oracle.resolve]
  rcases type.target with _ | name
  · exact .none
  · exact h name

/-- A member that is referred to is found by its owner, its name and its number among those of the
name, all of which are the same. -/
theorem resolveMember (reference : MemberRef) :
    Option.Rel (ResolvedMember.Alike asked) (before.resolveMember reference)
      (after.resolveMember reference) := by
  rw [Oracle.resolveMember, Oracle.resolveMember]
  have howner := h reference.owner
  generalize before.declaration reference.owner = owner?,
    after.declaration reference.owner = owner'? at howner
  cases howner with
  | none => exact .none
  | @some owner owner' howner =>
    have hmember := howner.memberNamed? reference.name reference.overload
    simp only [Option.bind_eq_bind, Option.bind_some]
    generalize owner.memberNamed? reference.name reference.overload = member?,
      owner'.memberNamed? reference.name reference.overload = member'? at hmember
    cases hmember with
    | none => exact .none
    | some hmember => exact .some ⟨howner, hmember⟩

/-- **A call goes to members that are alike**, or to none in both. -/
theorem resolveCall (call : Call) :
    Option.Rel (ResolvedMember.Alike asked) (before.resolveCall call) (after.resolveCall call) := by
  rw [Oracle.resolveCall, Oracle.resolveCall]
  rcases call.target with _ | reference
  · exact .none
  · exact h.resolveMember reference

/-- What is asked of the target of a call has the same answer, if it does not tell alike members
apart. -/
theorem any_resolveCall {p q : ResolvedMember → Bool}
    (hpq : ∀ target target' : ResolvedMember, target.Alike asked target' → q target' = p target)
    (call : Call) : (after.resolveCall call).any q = (before.resolveCall call).any p := by
  have htarget := h.resolveCall call
  generalize before.resolveCall call = target?, after.resolveCall call = target'? at htarget
  cases htarget with
  | none => rfl
  | some htarget => exact hpq _ _ htarget

/-- The search goes up along supertypes, which are the same and resolve alike. -/
theorem parents {current current' : Declaration} (hcurrent : current.Alike asked current') :
    (before.parents current).Forall₂ (Declaration.Alike asked) (after.parents current') := by
  rw [Oracle.parents, Oracle.parents, hcurrent.supertypes]
  refine List.rel_reverse (List.rel_filterMap (R := Eq) ?_ (List.forall₂_same.2 fun _ _ => rfl))
  rintro entry - rfl
  exact h.resolve entry.typeRef

/-- **One turn of the search**: from worklists that are alike, both searches come to the same
answer, or to worklists that are alike again. -/
theorem turn (name : String) {work work' : Worklist} (hwork : work.Alike asked work') :
    (before.turn name work).Alike asked (after.turn name work') := by
  obtain ⟨visited, pending⟩ := work
  obtain ⟨visited', pending'⟩ := work'
  obtain ⟨hvisited, hpending⟩ := hwork
  obtain rfl : visited' = visited := hvisited
  cases hpending with
  | nil => exact .answer false
  | @cons current current' rest rest' hcurrent hrest =>
    simp only [Oracle.turn, hcurrent.qualifiedName, hcurrent.supertypes]
    split
    · exact .answer true
    · split
      · exact .goOn ⟨rfl, hrest⟩
      · split
        · exact .answer true
        · exact .goOn ⟨rfl, List.rel_append (h.parents hcurrent) hrest⟩

/-- **A whole run**: searches that begin alike end with the same answer. The induction is on the run
of the one, which the other follows turn by turn. -/
theorem answers {name : String} {work work' : Worklist} {found : Bool}
    (hwork : work.Alike asked work') (hrun : before.Answers name work found) :
    after.Answers name work' found := by
  induction hrun generalizing work' with
  | last hturn =>
    have hstep := h.turn name hwork
    rw [hturn] at hstep
    cases hturn' : after.turn name work' with
    | answer found' =>
      rw [hturn'] at hstep
      cases hstep
      exact .last hturn'
    | goOn next' =>
      rw [hturn'] at hstep
      cases hstep
  | next hturn _ ih =>
    have hstep := h.turn name hwork
    rw [hturn] at hstep
    cases hturn' : after.turn name work' with
    | answer found' =>
      rw [hturn'] at hstep
      cases hstep
    | goOn next' =>
      rw [hturn'] at hstep
      cases hstep with
      | goOn hnext => exact .next hturn' (ih hnext)

/-- Declarations that are alike have the same supertypes at any distance. -/
theorem declarationIsSubtypeOf {declaration declaration' : Declaration}
    (hdeclaration : declaration.Alike asked declaration') (name : String) :
    after.declarationIsSubtypeOf declaration' name =
      before.declarationIsSubtypeOf declaration name := by
  have hwork : Worklist.Alike asked ⟨[], [declaration]⟩ ⟨[], [declaration']⟩ :=
    ⟨rfl, .cons hdeclaration .nil⟩
  exact (answers_declarationIsSubtypeOf declaration').unique
    (h.answers hwork (answers_declarationIsSubtypeOf declaration))

/-- **The subtypes are the same**: whether a type lies below another is no matter of parameters. -/
theorem isSubtypeOf : after.isSubtypeOf = before.isSubtypeOf := by
  funext type name
  rw [Oracle.isSubtypeOf, Oracle.isSubtypeOf]
  have htype := h.resolve type
  generalize before.resolve type = declaration?, after.resolve type = declaration'? at htype
  cases htype with
  | none => rfl
  | some hdeclaration => simp only [h.declarationIsSubtypeOf hdeclaration]

end Alike

end Oracle

/-! ### Tables -/

/-- The first declaration of a name is alike in lists that are alike, for declarations that are
alike share their names. -/
theorem Declaration.Alike.find? {before after : List Declaration}
    (h : before.Forall₂ (Declaration.Alike asked) after) (name : String) :
    Option.Rel (Declaration.Alike asked) (before.find? (·.qualifiedName == name))
      (after.find? (·.qualifiedName == name)) := by
  induction h with
  | nil => exact .none
  | cons hdeclaration _ ih =>
    rw [List.find?_cons, List.find?_cons, hdeclaration.qualifiedName]
    split
    · exact .some hdeclaration
    · exact ih

/-- **Tables of code that is alike** are alike. A table is a list of declarations, and what it knows
of a name is the first that bears it. -/
theorem SymbolTable.alike_oracle {units units' : List CompilationUnit}
    {library library' : List Declaration}
    (hunits : units.Forall₂ (CompilationUnit.Alike asked) units')
    (hlibrary : library.Forall₂ (Declaration.Alike asked) library') :
    Oracle.Alike asked ((ofUnits units).insertAll library).oracle
      ((ofUnits units').insertAll library').oracle := by
  have hdeclared : (units.flatMap (·.declarations)).Forall₂ (Declaration.Alike asked)
      (units'.flatMap (·.declarations)) :=
    List.rel_flatMap hunits fun _ _ hunit => hunit.declarations
  intro name
  change Option.Rel _ (((ofUnits units).insertAll library).declaration name)
    (((ofUnits units').insertAll library').declaration name)
  rw [declaration_insertAll, declaration_insertAll, declaration_ofUnits, declaration_ofUnits]
  have hunit := Declaration.Alike.find? hdeclared name
  generalize (units.flatMap (·.declarations)).find? (·.qualifiedName == name) = found?,
    (units'.flatMap (·.declarations)).find? (·.qualifiedName == name) = found'? at hunit
  cases hunit with
  | none => exact Declaration.Alike.find? hlibrary name
  | some hfound => exact .some hfound

end DeclLint
