import DeclLint.Symbol.Oracle

/-!
# Symbol tables

A `SymbolTable` holds declarations under their qualified names. The first declaration of a name
stays; later ones are ignored.
-/

namespace DeclLint

/-- Declarations with pairwise different qualified names, in the order in which they were added. -/
structure SymbolTable where
  /-- the declarations -/
  declarations : List Declaration
  /-- no name is declared twice -/
  nodup : (declarations.map (·.qualifiedName)).Nodup

namespace SymbolTable

/-- The table without declarations. -/
def empty : SymbolTable := ⟨[], List.nodup_nil⟩

/-- The declaration with the given name. -/
def declaration (table : SymbolTable) (name : String) : Option Declaration :=
  table.declarations.find? (·.qualifiedName == name)

/-- The number of declarations. -/
def size (table : SymbolTable) : Nat := table.declarations.length

/-- Whether there are no declarations. -/
def isEmpty (table : SymbolTable) : Bool := table.declarations.isEmpty

/-- Adds a declaration, unless its name is taken. -/
def insert (table : SymbolTable) (added : Declaration) : SymbolTable :=
  if h : added.qualifiedName ∈ table.declarations.map (·.qualifiedName) then
    table
  else
    { declarations := table.declarations ++ [added]
      nodup := by
        rw [List.map_append, List.nodup_append]
        refine ⟨table.nodup, by simp, ?_⟩
        intro a ha b hb heq
        simp only [List.map_cons, List.map_nil, List.mem_singleton] at hb
        exact h (hb ▸ heq ▸ ha) }

/-- Adds declarations one after the other. -/
def insertAll (table : SymbolTable) (added : List Declaration) : SymbolTable :=
  added.foldl insert table

/-- Adds the declarations of a unit. -/
def insertUnit (table : SymbolTable) (unit : CompilationUnit) : SymbolTable :=
  table.insertAll unit.declarations

/-- The table of the declarations of some units, in order. -/
def ofUnits (units : List CompilationUnit) : SymbolTable := units.foldl insertUnit empty

/-- The table as an oracle. -/
def oracle (table : SymbolTable) : Oracle where
  declaration := table.declaration
  names := table.declarations.map (·.qualifiedName)
  mem_names := fun h => List.mem_map_of_mem (List.mem_of_find?_eq_some h)

end SymbolTable

end DeclLint
