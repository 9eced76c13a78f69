import DeclLint.Toml.Scan
import DeclLint.Toml.Table

/-!
# TOML documents

`Document.parse` reads a whole document into the entries of its root table. A document is a sequence
of lines: blank, a comment, a key with a value, or a header that opens the section of a table.

Values may be nested, and keys may have dots, up to a fixed depth.
-/

namespace DeclLint

namespace Toml

namespace Document

/-- Nesting of values and dots of keys stay below this number. -/
def depthLimit : Nat := 80

/-- Splits the last part of a key off. -/
def splitLast : List String → Option (List String × String)
  | [] => none
  | parts => parts.getLast?.map (parts.dropLast, ·)

/-- Reads a key. -/
def key (cs : List Char) : Option (List String × String × List Char) := do
  let (parts, rest) ← Scan.key (depthLimit - 1) cs
  let (path, last) ← splitLast parts
  return (path, last, rest)

mutual

/-- Reads a value that may nest `depth` levels; `limit` bounds the steps. -/
def value : (limit depth : Nat) → List Char → Option (Value × List Char)
  | 0, _, _ => none
  | limit + 1, depth, cs =>
    match cs with
    | '\x22' :: _ => (Scan.string cs).map fun (text, rest) => (.string text, rest)
    | '\x27' :: _ => (Scan.string cs).map fun (text, rest) => (.string text, rest)
    | '[' :: cs =>
      match depth with
      | 0 => none
      | depth + 1 => (items limit depth cs).map fun (values, rest) => (.array values, rest)
    | '\x7b' :: cs =>
      match depth with
      | 0 => none
      | depth + 1 =>
        match Scan.skipBlank cs with
        | '\x7d' :: rest => some (.table [], rest)
        | _ => (entries limit depth {} cs).map fun (table, rest) => (.table table.finish, rest)
    | _ => Scan.scalar cs

/-- Reads the items of an array up to its closing bracket; a comma may follow the last one. -/
def items : (limit depth : Nat) → List Char → Option (List Value × List Char)
  | 0, _, _ => none
  | limit + 1, depth, cs => do
    match ← Scan.skipTrivia false cs with
    | ']' :: rest => return ([], rest)
    | cs =>
      let (first, rest) ← value limit depth cs
      match ← Scan.skipTrivia false rest with
      | ']' :: rest => return ([first], rest)
      | ',' :: rest =>
        let (others, rest) ← items limit depth rest
        return (first :: others, rest)
      | _ => none

/-- Reads the entries of an inline table up to its closing brace. -/
def entries : (limit depth : Nat) → Table → List Char → Option (Table × List Char)
  | 0, _, _, _ => none
  | limit + 1, depth, table, cs => do
    let (path, last, rest) ← key cs
    match rest with
    | '=' :: rest =>
      let (found, rest) ← value limit depth (Scan.skipBlank rest)
      let table ← table.addValue path last found
      match Scan.skipBlank rest with
      | '\x7d' :: rest => return (table, rest)
      | ',' :: rest => entries limit depth table rest
      | _ => none
    | _ => none

end

/-- A document while it is read: the root table and the path of the section that is open. -/
structure State where
  /-- the root table -/
  root : Table := {}
  /-- where the open section stands -/
  path : List String := []

/-- Reads a header, from behind its first bracket. -/
def header (state : State) (cs : List Char) : Option (State × List Char) :=
  match cs with
  | '[' :: cs => do
    let (path, last, rest) ← key cs
    match rest with
    | ']' :: ']' :: rest =>
      let rest ← Scan.endLine false rest
      let root ← state.root.openTables path last
      return ({ root, path := path ++ [last] }, rest)
    | _ => none
  | cs => do
    let (path, last, rest) ← key cs
    match rest with
    | ']' :: rest =>
      let rest ← Scan.endLine false rest
      let root ← state.root.openTable path last
      return ({ root, path := path ++ [last] }, rest)
    | _ => none

/-- Reads a key with its value. -/
def keyValue (state : State) (cs : List Char) : Option (State × List Char) := do
  let (path, last, rest) ← key cs
  match rest with
  | '=' :: rest =>
    let cs := Scan.skipBlank rest
    let (found, rest) ← value (2 * cs.length + 2) (depthLimit - 1) cs
    let rest ← Scan.endLine false rest
    let root ← state.root.update false (·.addValue path last found) state.path
    return ({ state with root }, rest)
  | _ => none

/-- Reads the lines of a document, at most `limit` of them. -/
def lines : (limit : Nat) → State → List Char → Option State
  | 0, _, _ => none
  | limit + 1, state, cs =>
    match Scan.skipBlank cs with
    | [] => some state
    | '#' :: cs => (Scan.endLine true cs).bind (lines limit state)
    | '\n' :: cs => lines limit state cs
    | '\r' :: '\n' :: cs => lines limit state cs
    | '[' :: cs => (header state cs).bind fun (state, rest) => lines limit state rest
    | cs => (keyValue state cs).bind fun (state, rest) => lines limit state rest

/-- Drops a byte-order mark. -/
def skipMark : List Char → List Char
  | '\uFEFF' :: cs => cs
  | cs => cs

/-- Reads a document. -/
def parse (text : String) : Option (List (String × Value)) := do
  let cs := skipMark text.toList
  let state ← lines (cs.length + 1) {} cs
  return state.root.finish

end Document

end Toml

end DeclLint
