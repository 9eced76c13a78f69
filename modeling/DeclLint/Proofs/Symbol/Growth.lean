import DeclLint.Proofs.Symbol.Lookup
import Mathlib.Data.Finset.Card

/-!
# Tables only grow

A symbol table is filled by operations that add one declaration, those of a unit, or those of a
library (`SymbolTable.Operation`). Whatever the operations were, the table holds the first
declaration of each name (`SymbolTable.declaration_run`), so its size is the number of different
names.

A later operation can therefore add answers, but not change them. For look-ups this is the law
above. For supertypes the run of the search says nothing: new declarations put more on its stack,
and what comes up first may be another one. The chains that it follows say it at once: a chain is
made of declarations that are known, and these stay (`Oracle.Knows.isSubtypeOf`).
-/

namespace DeclLint

open Relation

namespace Oracle

variable {old new : Oracle}

/-- `new` knows every declaration that `old` knows, under the same name. -/
def Knows (new old : Oracle) : Prop :=
  ∀ name found, old.declaration name = some found → new.declaration name = some found

/-- `new` gives every answer that `old` gives. -/
structure KeepsAnswers (old new : Oracle) : Prop where
  /-- a declaration that was found is still found -/
  declaration : ∀ {name : String} {found : Declaration},
    old.declaration name = some found → new.declaration name = some found
  /-- a type that was resolved resolves as before -/
  resolve : ∀ {type : TypeRef} {found : Declaration},
    old.resolve type = some found → new.resolve type = some found
  /-- a reference that was resolved resolves as before -/
  resolveMember : ∀ {reference : MemberRef} {found : ResolvedMember},
    old.resolveMember reference = some found → new.resolveMember reference = some found
  /-- a call that was resolved resolves as before -/
  resolveCall : ∀ {call : Call} {found : ResolvedMember},
    old.resolveCall call = some found → new.resolveCall call = some found
  /-- what was a subtype is one -/
  isSubtypeOf : ∀ {type : TypeRef} {name : String},
    old.isSubtypeOf type name = true → new.isSubtypeOf type name = true

namespace Knows

variable (knows : new.Knows old)
include knows

/-- A type that was resolved still is, and to the same declaration. -/
theorem resolve {type : TypeRef} {found : Declaration} (h : old.resolve type = some found) :
    new.resolve type = some found := by
  obtain ⟨target, htarget, hfound⟩ := Option.bind_eq_some_iff.1 h
  exact Option.bind_eq_some_iff.2 ⟨target, htarget, knows target found hfound⟩

theorem resolveMember {reference : MemberRef} {found : ResolvedMember}
    (h : old.resolveMember reference = some found) : new.resolveMember reference = some found := by
  obtain ⟨owner, howner, hmember⟩ := Option.bind_eq_some_iff.1 h
  exact Option.bind_eq_some_iff.2 ⟨owner, knows reference.owner owner howner, hmember⟩

/-- **A call goes where it went**, once its target is known. -/
theorem resolveCall {call : Call} {found : ResolvedMember}
    (h : old.resolveCall call = some found) : new.resolveCall call = some found := by
  obtain ⟨target, htarget, hfound⟩ := Option.bind_eq_some_iff.1 h
  exact Option.bind_eq_some_iff.2 ⟨target, htarget, knows.resolveMember hfound⟩

/-- A link of a chain stays, because the declaration that makes it does. -/
theorem extends_of_extends {a b : String} (h : old.Extends a b) : new.Extends a b := by
  obtain ⟨found, hfound, hentry⟩ := h
  exact ⟨found, knows a found hfound, hentry⟩

/-- **Subtypes stay subtypes.** More may come, as more declarations are known, but a chain of
supertypes is not broken. -/
theorem isSubtypeOf (hold : old.Faithful) (hnew : new.Faithful) {type : TypeRef} {name : String}
    (h : old.isSubtypeOf type name = true) : new.isSubtypeOf type name = true := by
  obtain ⟨target, htarget, hchain⟩ := (isSubtypeOf_iff hold).1 h
  have hchain' : ReflTransGen new.Extends target name :=
    ReflTransGen.mono (fun _ _ => knows.extends_of_extends) target name hchain
  exact (isSubtypeOf_iff hnew).2 ⟨target, htarget, hchain'⟩

/-- **All answers go through the look-up**, so they are kept with it. -/
theorem keepsAnswers (hold : old.Faithful) (hnew : new.Faithful) : KeepsAnswers old new where
  declaration := knows _ _
  resolve := knows.resolve
  resolveMember := knows.resolveMember
  resolveCall := knows.resolveCall
  isSubtypeOf := knows.isSubtypeOf hold hnew

end Knows

end Oracle

namespace SymbolTable

/-! ### Sequences of operations -/

/-- A way to fill a table. -/
inductive Operation where
  /-- adds a declaration -/
  | insert (added : Declaration)
  /-- adds the declarations of a unit -/
  | insertUnit (unit : CompilationUnit)
  /-- adds the declarations of a library -/
  | withLibrary (library : List Declaration)

/-- The declarations an operation adds, in order. -/
def Operation.added : Operation → List Declaration
  | insert added => [added]
  | insertUnit unit => unit.declarations
  | withLibrary library => library

/-- Carries an operation out. -/
def apply (table : SymbolTable) : Operation → SymbolTable
  | .insert added => table.insert added
  | .insertUnit unit => table.insertUnit unit
  | .withLibrary library => table.insertAll library

/-- Carries operations out, one after the other. -/
def applyAll (table : SymbolTable) (operations : List Operation) : SymbolTable :=
  operations.foldl apply table

/-- The table that operations make from nothing. -/
def run (operations : List Operation) : SymbolTable := empty.applyAll operations

/-- Every operation adds its declarations one by one, whether they come alone, in a list or in a
unit. -/
theorem apply_eq_insertAll (table : SymbolTable) (operation : Operation) :
    table.apply operation = table.insertAll operation.added := by
  cases operation <;> rfl

/-- **A step** answers as before, and where there was no answer by what it adds. -/
theorem declaration_apply (table : SymbolTable) (operation : Operation) (name : String) :
    (table.apply operation).declaration name =
      (table.declaration name).or (operation.added.find? (·.qualifiedName == name)) := by
  rw [apply_eq_insertAll, declaration_insertAll]

/-- **A run** answers as before, and where there was no answer by what it adds first. The induction
is on the operations, with the table as it changes. -/
theorem declaration_applyAll (table : SymbolTable) (operations : List Operation) (name : String) :
    (table.applyAll operations).declaration name =
      (table.declaration name).or
        ((operations.flatMap (·.added)).find? (·.qualifiedName == name)) := by
  induction operations generalizing table with
  | nil => rw [List.flatMap_nil, List.find?_nil, Option.or_none]; rfl
  | cons operation rest ih =>
    calc (table.applyAll (operation :: rest)).declaration name
        = ((table.apply operation).applyAll rest).declaration name := rfl
      _ = ((table.apply operation).declaration name).or
            ((rest.flatMap (·.added)).find? (·.qualifiedName == name)) := ih _
      _ = (table.declaration name).or
            (((operation :: rest).flatMap (·.added)).find? (·.qualifiedName == name)) := by
          rw [declaration_apply, Option.or_assoc, List.flatMap_cons, List.find?_append]

theorem declaration_run (operations : List Operation) (name : String) :
    (run operations).declaration name =
      (operations.flatMap (·.added)).find? (·.qualifiedName == name) :=
  declaration_applyAll empty operations name

theorem run_append (operations more : List Operation) :
    run (operations ++ more) = (run operations).applyAll more := List.foldl_append

/-! ### Size -/

/-- The names of a table are those under which it finds a declaration, so the names may be counted
instead. -/
theorem mem_names_iff {table : SymbolTable} {name : String} :
    name ∈ table.declarations.map (·.qualifiedName) ↔ (table.declaration name).isSome := by
  rw [declaration, List.find?_isSome]
  simp only [List.mem_map, beq_iff_eq]

/-- The names of a table are those that were added, including those of declarations that were
ignored. -/
theorem mem_names_run_iff {operations : List Operation} {name : String} :
    name ∈ (run operations).declarations.map (·.qualifiedName) ↔
      name ∈ (operations.flatMap (·.added)).map (·.qualifiedName) := by
  rw [mem_names_iff, declaration_run, List.find?_isSome]
  simp only [List.mem_map, beq_iff_eq]

/-- **The size is the number of different names** that were added, however often each of them
was. -/
theorem size_run (operations : List Operation) :
    (run operations).size =
      ((operations.flatMap (·.added)).map (·.qualifiedName)).toFinset.card := by
  have hsame : ((operations.flatMap (·.added)).map (·.qualifiedName)).toFinset =
      ((run operations).declarations.map (·.qualifiedName)).toFinset := by
    ext name
    rw [List.mem_toFinset, List.mem_toFinset, mem_names_run_iff]
  rw [hsame, List.toFinset_card_of_nodup (run operations).nodup, List.length_map, size]

/-! ### Later operations -/

/-- Operations only add, so the later table knows all that the earlier one does. -/
theorem knows_applyAll (table : SymbolTable) (more : List Operation) :
    (table.applyAll more).oracle.Knows table.oracle := by
  intro name found hfound
  change (table.applyAll more).declaration name = some found
  change table.declaration name = some found at hfound
  rw [declaration_applyAll, hfound, Option.some_or]

/-- **The first declaration of a name wins**, through any operations that make a table. It is found
under its own name, the size counts the names once each, and no later operation changes an
answer. -/
theorem run_first_wins (operations more : List Operation) :
    (∀ name, (run operations).declaration name =
      (operations.flatMap (·.added)).find? (·.qualifiedName == name)) ∧
    (∀ {name found}, (run operations).declaration name = some found → found.qualifiedName = name) ∧
    (run operations).size =
      ((operations.flatMap (·.added)).map (·.qualifiedName)).toFinset.card ∧
    Oracle.KeepsAnswers (run operations).oracle (run (operations ++ more)).oracle := by
  refine ⟨declaration_run operations, (run operations).faithful_oracle, size_run operations, ?_⟩
  rw [run_append]
  exact (knows_applyAll (run operations) more).keepsAnswers (run operations).faithful_oracle
    ((run operations).applyAll more).faithful_oracle

end SymbolTable

end DeclLint
