import DeclLint.Toml.Value

/-!
# Tables under construction

While a document is read, a table remembers how it came about: a table is *implicit* until its own
header is read, and *dotted* if a dotted key made it. These marks decide which tables a later line
may still extend:

* a header may give an implicit table its own section, once, unless a dotted key made it; the table
  then counts as the latest entry of its parent;
* a dotted key extends only tables that dotted keys made;
* nothing extends a finished value, an inline table included;
* a path through an array of tables goes on in its last table.
-/

namespace DeclLint

namespace Toml

mutual

/-- A table while its document is read. -/
structure Table where
  /-- the entries so far -/
  entries : List (String × Entry) := []
  /-- whether the table has no header of its own -/
  implicit : Bool := false
  /-- whether a dotted key made the table -/
  dotted : Bool := false

/-- An entry of a table while its document is read. -/
inductive Entry where
  /-- a finished value -/
  | value (value : Value)
  /-- a table -/
  | table (table : Table)
  /-- an array of tables, which grows by headers in double brackets -/
  | tables (tables : List Table)

end

instance : Inhabited Table := ⟨{}⟩

namespace Table

/-- Sets an entry, in place of an earlier one. -/
def setEntry (entries : List (String × Entry)) (key : String) (entry : Entry) :
    List (String × Entry) :=
  match entries with
  | [] => [(key, entry)]
  | (other, old) :: rest =>
    if other = key then (key, entry) :: rest else (other, old) :: setEntry rest key entry

/-- Changes the table at the end of a path, making the tables on the way that are missing. With
`dotted` the path belongs to a dotted key. -/
def update (dotted : Bool) (change : Table → Option Table) : List String → Table → Option Table
  | [], table => change table
  | key :: path, table => do
    let entry ← match table.entries.lookup key with
      | none =>
        let child ← update dotted change path { implicit := true, dotted }
        some (Entry.table child)
      | some (.value _) => none
      | some (.table child) =>
        if dotted && !child.implicit then none
        else (update dotted change path child).map .table
      | some (.tables children) => do
        let last ← children.getLast?
        let child ← update dotted change path last
        some (.tables (children.dropLast ++ [child]))
    return { table with entries := setEntry table.entries key entry }

/-- Adds a value under a key with dots. The table that gets it must have been made by the key's own
dots, or be the one the line stands in. -/
def addValue (path : List String) (key : String) (value : Value) (table : Table) : Option Table :=
  update true (fun target =>
    if target.dotted == path.isEmpty || (target.entries.lookup key).isSome then none
    else some { target with entries := setEntry target.entries key (.value value) }) path table

/-- Opens the section of a table header. -/
def openTable (path : List String) (key : String) (table : Table) : Option Table :=
  update false (fun parent =>
    match parent.entries.lookup key with
    | none => some { parent with entries := setEntry parent.entries key (.table {}) }
    | some (.table child) =>
      if child.implicit && !child.dotted then
        some { parent with
          entries := parent.entries.filter (·.1 != key) ++
            [(key, .table { child with implicit := false })] }
      else
        none
    | some _ => none) path table

/-- Opens the section of a header in double brackets: one more table of an array. -/
def openTables (path : List String) (key : String) (table : Table) : Option Table :=
  update false (fun parent =>
    match parent.entries.lookup key with
    | none => some { parent with entries := setEntry parent.entries key (.tables [{}]) }
    | some (.tables children) =>
      some { parent with entries := setEntry parent.entries key (.tables (children ++ [{}])) }
    | some _ => none) path table

mutual

/-- The entries of the finished table. -/
def finish : Table → List (String × Value)
  | ⟨entries, _, _⟩ => finishEntries entries

/-- The values of finished entries. -/
def finishEntries : List (String × Entry) → List (String × Value)
  | [] => []
  | (key, entry) :: rest => (key, finishEntry entry) :: finishEntries rest

/-- The value of a finished entry. -/
def finishEntry : Entry → Value
  | .value value => value
  | .table table => .table (finish table)
  | .tables tables => .array (finishTables tables)

/-- The values of finished tables. -/
def finishTables : List Table → List Value
  | [] => []
  | table :: rest => .table (finish table) :: finishTables rest

end

end Table

end Toml

end DeclLint
