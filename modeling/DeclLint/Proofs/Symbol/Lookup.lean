import DeclLint.Proofs.Symbol.Reachability

/-!
# What a look-up answers

All that an oracle is asked comes down to looking up declarations by name. Oracles that know the
same declarations (`Oracle.SameDeclarations`) may still list different names; the search for a
supertype asks for declarations only, and has one answer (`Oracle.Answers.unique`).

A symbol table looks up the first declaration of a name among all that were added
(`SymbolTable.declaration_ofUnits`).
-/

namespace DeclLint

namespace Oracle

variable {left right oracle : Oracle} {name : String}

/-- Both oracles know the same declarations. -/
def SameDeclarations (left right : Oracle) : Prop := left.declaration = right.declaration

/-- **A run has one answer.** The induction is on the run: a turn comes to an answer or to one
worklist, never to both. -/
theorem Answers.unique {work : Worklist} {found other : Bool} (h : oracle.Answers name work found)
    (h' : oracle.Answers name work other) : found = other := by
  induction h with
  | last hturn =>
    cases h' with
    | last hturn' => exact Turn.answer.inj (hturn.symm.trans hturn')
    | next hturn' _ => cases hturn.symm.trans hturn'
  | next hturn _ ih =>
    cases h' with
    | last hturn' => cases hturn.symm.trans hturn'
    | next hturn' hrun' =>
      obtain rfl := Turn.goOn.inj (hturn.symm.trans hturn')
      exact ih hrun'

end Oracle

namespace SymbolTable

/-- Adding a declaration changes the answer for its name only, and only if there was none. -/
theorem declaration_insert (table : SymbolTable) (added : Declaration) (name : String) :
    (table.insert added).declaration name =
      (table.declaration name).or ([added].find? (·.qualifiedName == name)) := by
  rw [insert]
  split
  · rename_i htaken
    rcases hfound : table.declaration name with _ | found
    · -- the name is not the one that is taken
      have hne : (added.qualifiedName == name) = false := by
        rw [beq_eq_false_iff_ne]
        rintro rfl
        obtain ⟨other, hother, hname⟩ := List.mem_map.1 htaken
        have hnone := List.find?_eq_none.1 hfound other hother
        simp [hname] at hnone
      simp [hne]
    · rfl
  · exact List.find?_append

/-- Of declarations that are added, the first of a name counts, and none does if the name was
taken. -/
theorem declaration_insertAll (table : SymbolTable) (added : List Declaration) (name : String) :
    (table.insertAll added).declaration name =
      (table.declaration name).or (added.find? (·.qualifiedName == name)) := by
  induction added generalizing table with
  | nil => simp [insertAll]
  | cons first rest ih =>
    have hcons : first :: rest = [first] ++ rest := rfl
    rw [insertAll, List.foldl_cons]
    rw [hcons, List.find?_append, ← Option.or_assoc, ← declaration_insert]
    exact ih (table.insert first)

/-- **A table of units looks up the first declaration of a name**, in the order of the units and,
within a unit, of its declarations. -/
theorem declaration_ofUnits (units : List CompilationUnit) (name : String) :
    (ofUnits units).declaration name =
      (units.flatMap (·.declarations)).find? (·.qualifiedName == name) := by
  have hfold : ∀ table : SymbolTable, (units.foldl insertUnit table).declaration name =
      (table.declaration name).or
        ((units.flatMap (·.declarations)).find? (·.qualifiedName == name)) := by
    induction units with
    | nil => simp
    | cons unit rest ih =>
      intro table
      rw [List.foldl_cons, ih, insertUnit, declaration_insertAll, List.flatMap_cons,
        List.find?_append, Option.or_assoc]
  exact hfold empty

end SymbolTable

end DeclLint
