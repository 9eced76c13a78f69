import DeclLint.Text.Numeric

/-!
# Qualified names

A qualified name is a dot-separated sequence of identifiers. Everything before the last dot is its
package, everything after it its simple name. A `FunctionName` designates a function by package and
simple name.

* `simpleName`, `packageOf` — the two halves of any text, split at the last dot;
* `isIdentifier`, `isQualifiedName` — the grammar of names;
* `FunctionName.parse`, `FunctionName.display` — reading and writing a function name.
-/

namespace DeclLint

namespace Name

/-- The parts before and after the last dot, if there is a dot. -/
def splitAtLastDot : List Char → Option (List Char × List Char)
  | [] => none
  | c :: cs =>
    match splitAtLastDot cs with
    | some (before, after) => some (c :: before, after)
    | none => if c = '.' then some ([], cs) else none

/-- The parts between the dots; there is always one more of them than there are dots. -/
def segments : List Char → List (List Char)
  | [] => [[]]
  | c :: cs =>
    if c = '.' then
      [] :: segments cs
    else
      match segments cs with
      | [] => [[c]]
      | segment :: rest => (c :: segment) :: rest

/-- Whether a character can begin an identifier. -/
def startsIdentifier (c : Char) : Bool := Text.isAlphabetic c || c == '_' || c == '$'

/-- Whether a character can stand inside an identifier. -/
def continuesIdentifier (c : Char) : Bool := Text.isAlphanumeric c || c == '_' || c == '$'

/-- Whether the characters form an identifier. -/
def isIdentifierChars : List Char → Bool
  | [] => false
  | c :: cs => startsIdentifier c && cs.all continuesIdentifier

end Name

/-- The part of a name after its last dot, the whole name if it has none. -/
def simpleName (name : String) : String :=
  match Name.splitAtLastDot name.toList with
  | some (_, after) => String.ofList after
  | none => name

/-- The part of a name before its last dot, empty if it has none. -/
def packageOf (name : String) : String :=
  match Name.splitAtLastDot name.toList with
  | some (before, _) => String.ofList before
  | none => ""

/-- Whether the text is a letter, `_` or `$` followed by letters, numbers, `_` and `$`. -/
def isIdentifier (text : String) : Bool := Name.isIdentifierChars text.toList

/-- Whether the text is one or more identifiers joined by single dots. -/
def isQualifiedName (text : String) : Bool :=
  (Name.segments text.toList).all Name.isIdentifierChars

/-- A function designated by its package and simple name. It stands for every member of that name
whose owner lies in that package. -/
structure FunctionName where
  /-- the package of the function, empty for the root package -/
  package : String
  /-- the simple name -/
  name : String
deriving DecidableEq, Repr, Inhabited

namespace FunctionName

/-- Splits a qualified name at its last dot. -/
def parse (qualifiedName : String) : FunctionName where
  package := packageOf qualifiedName
  name := simpleName qualifiedName

/-- The qualified name, without a dot in the root package. -/
def display (function : FunctionName) : String :=
  if function.package = "" then function.name
  else function.package ++ "." ++ function.name

end FunctionName

end DeclLint
