import DeclLint.Text.Unseen

/-!
# File paths

A `Path` is printed as it was written and compared by its components. Repeated and trailing
separators do not count, nor does a `.` that is not the first component, so `a//b/./c` and `a/b/c`
are the same path.

* `Path.components` — the view all comparisons go through;
* `Path.cmp` — the order of paths: component by component, a proper beginning first;
* `Path.startsWith` — whether a path lies in a directory.
-/

namespace DeclLint

/-- A file path as written. -/
structure Path where
  /-- the text of the path -/
  text : String
deriving Repr, Inhabited

namespace Path

/-- One step of a path. -/
inductive Component where
  /-- the root directory, at the beginning only -/
  | root
  /-- the current directory, at the beginning only -/
  | current
  /-- the parent directory -/
  | parent
  /-- a file or directory name -/
  | name (text : String)
deriving DecidableEq, Repr

namespace Component

/-- The place of each kind of component in the order. -/
def rank : Component → Nat
  | root => 0
  | current => 1
  | parent => 2
  | name _ => 3

/-- The text that tells components of one kind apart. -/
def text : Component → String
  | name text => text
  | _ => ""

/-- Components are ordered by kind, names among themselves by code point. -/
def cmp : Component → Component → Ordering :=
  compareLex (compareOn rank) (compareOn text)

end Component

/-- The pieces between the separators, empty ones included. -/
def pieces : List Char → List (List Char)
  | [] => [[]]
  | c :: cs =>
    if c = '/' then
      [] :: pieces cs
    else
      match pieces cs with
      | [] => [[c]]
      | piece :: rest => (c :: piece) :: rest

/-- The component a piece stands for, unless it is empty or a `.`. -/
def component? (piece : List Char) : Option Component :=
  if piece = [] ∨ piece = ['.'] then none
  else if piece = ['.', '.'] then some .parent
  else some (.name (String.ofList piece))

/-- The components of the path. -/
def components (path : Path) : List Component :=
  match pieces path.text.toList with
  | [] => []
  | first :: rest =>
    let inner := rest.filterMap component?
    if first = ['.'] then .current :: inner
    else if first = [] ∧ rest ≠ [] then .root :: inner
    else (component? first).toList ++ inner

/-- Paths are the same when their components are. -/
instance : BEq Path where
  beq a b := a.components == b.components

/-- The order of paths. -/
def cmp (a b : Path) : Ordering := List.compareLex Component.cmp a.components b.components

/-- Whether the components of `directory` begin those of `path`. -/
def startsWith (path directory : Path) : Bool :=
  directory.components.isPrefixOf path.components

/-- How the debug form of a path writes one character. -/
def escapeChar (c : Char) : String :=
  if c = '\x00' then "\\0"
  else if c = '\t' then "\\t"
  else if c = '\n' then "\\n"
  else if c = '\r' then "\\r"
  else if c = '\x22' ∨ c = '\\' then String.ofList ['\\', c]
  else if Text.isUnseen c then
    "\\u\x7b" ++ String.ofList (Nat.toDigits 16 c.toNat) ++ "\x7d"
  else String.singleton c

/-- The path in double quotes, with double quotes, backslashes and unseen characters escaped. -/
def debugText (path : Path) : String :=
  "\"" ++ String.join (path.text.toList.map escapeChar) ++ "\""

end Path

end DeclLint
