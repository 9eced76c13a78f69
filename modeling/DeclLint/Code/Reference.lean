import DeclLint.Name
import DeclLint.Text.Position

/-!
# Annotations and references

The leaves of the code model: annotations, references to types and references to members. A
reference carries the qualified name it was resolved to; a reference that could not be resolved
carries none.
-/

namespace DeclLint

/-- An annotation on a declaration, a member or a parameter. -/
structure Annotation where
  /-- the qualified name of the annotation type -/
  qualifiedName : String
  /-- where it stands, if known -/
  range : Option Range := none
deriving DecidableEq, Repr, Inhabited

/-- The first annotation with the given name. -/
def findAnnotation? (annotations : List Annotation) (name : String) : Option Annotation :=
  annotations.find? (·.qualifiedName == name)

/-- One of the annotations has the given name. -/
def Carries (annotations : List Annotation) (name : String) : Prop :=
  ∃ annotation ∈ annotations, annotation.qualifiedName = name

theorem findAnnotation?_isSome_iff {annotations : List Annotation} {name : String} :
    (findAnnotation? annotations name).isSome ↔ Carries annotations name := by
  simp only [findAnnotation?, List.find?_isSome, beq_iff_eq, Carries]

/-- A type as written at some place of the code. -/
structure TypeRef where
  /-- the text of the type -/
  text : String
  /-- the qualified name of the type, if it could be resolved -/
  target : Option String := none
  /-- where it stands, if known -/
  range : Option Range := none
deriving DecidableEq, Repr, Inhabited

namespace TypeRef

/-- A reference to a type of known name, written by its simple name. -/
def resolved (qualifiedName : String) : TypeRef where
  text := simpleName qualifiedName
  target := some qualifiedName

/-- A reference to a type that is not known. -/
def unresolved (text : String) : TypeRef where
  text := text

/-- Whether the type is known to be exactly the one of the given name. -/
def isNamed (type : TypeRef) (name : String) : Bool := type.target == some name

end TypeRef

/-- The member name of constructors. -/
def constructorName : String := "<init>"

/-- A reference to a member of a declaration. -/
structure MemberRef where
  /-- the qualified name of the owner -/
  owner : String
  /-- the name of the member -/
  name : String
  /-- which of the owner's members of that name is meant, counted from 0 -/
  overload : Nat := 0
deriving DecidableEq, Repr, Inhabited

namespace MemberRef

/-- A reference to the first constructor of a declaration. -/
def constructor (owner : String) : MemberRef where
  owner := owner
  name := constructorName

end MemberRef

end DeclLint
