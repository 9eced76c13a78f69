import DeclLint.Code.Expr
import DeclLint.Path

/-!
# Declarations

Classes, interfaces, objects and file facades, with their supertypes and members, and the units that
hold them. Top-level functions are members of a facade, so every member has an owner.

A suspending function takes one parameter more than its author wrote: the continuation, which the
compiler puts last. `Member.userParameters` leaves it out, `Member.addParameter` keeps it last.
-/

namespace DeclLint

/-- A parameter of a constructor or method. -/
structure Parameter where
  /-- the name of the parameter -/
  name : String
  /-- its type -/
  typeRef : TypeRef
  /-- its annotations -/
  annotations : List Annotation := []
  /-- its default value -/
  defaultValue : Option Expr := none
  /-- where it stands, if known -/
  range : Option Range := none
deriving Inhabited

/-- Adds an annotation after the others. -/
def Parameter.annotate (parameter : Parameter) (added : Annotation) : Parameter :=
  { parameter with annotations := parameter.annotations ++ [added] }

/-- The kinds of members. -/
inductive MemberKind where
  /-- a field or property -/
  | field
  /-- a constructor -/
  | constructor
  /-- a method or function -/
  | method
  /-- an initializer block -/
  | initializer
deriving DecidableEq, Repr, Inhabited

/-- A member of a declaration. -/
structure Member where
  /-- the kind of member -/
  kind : MemberKind
  /-- the name of the member -/
  name : String
  /-- its annotations -/
  annotations : List Annotation := []
  /-- its parameters, the continuation of a suspending function included -/
  parameters : List Parameter := []
  /-- where the parameter list stands, brackets included, if known -/
  parameterList : Option Range := none
  /-- the type an extension function extends -/
  receiver : Option TypeRef := none
  /-- the type of a field or the result type of a method -/
  declaredType : Option TypeRef := none
  /-- the statements of the body -/
  body : Option (List Expr) := none
  /-- the constructor call a secondary constructor delegates to -/
  delegation : Option Call := none
  /-- whether the last parameter is a continuation that nobody wrote -/
  syntheticContinuation : Bool := false
  /-- where the member stands, if known -/
  range : Option Range := none
  /-- where its name stands, if known -/
  nameRange : Option Range := none
deriving Inhabited

namespace Member

/-- A field of the given type. -/
def field (name : String) (type : TypeRef) : Member where
  kind := .field
  name := name
  declaredType := some type

/-- A method without parameters. -/
def method (name : String) : Member where
  kind := .method
  name := name

/-- A constructor without parameters. -/
def constructor : Member where
  kind := .constructor
  name := constructorName

/-- An initializer block. -/
def initializer : Member where
  kind := .initializer
  name := "init"

/-- Adds an annotation after the others. -/
def annotate (member : Member) (added : Annotation) : Member :=
  { member with annotations := member.annotations ++ [added] }

/-- The continuation parameter of suspending functions. -/
def continuation : Parameter where
  name := "$completion"
  typeRef := .resolved "kotlin.coroutines.Continuation"

/-- Adds a parameter after those that were written, and so before the continuation. -/
def addParameter (member : Member) (parameter : Parameter) : Member :=
  if member.syntheticContinuation && !member.parameters.isEmpty then
    { member with
      parameters := member.parameters.dropLast ++ parameter :: member.parameters.getLast?.toList }
  else
    { member with parameters := member.parameters ++ [parameter] }

/-- Makes a member suspending: it takes a continuation, once. -/
def suspending (member : Member) : Member :=
  if member.syntheticContinuation then
    member
  else
    { member with
      parameters := member.parameters ++ [continuation]
      syntheticContinuation := true }

/-- The parameters that were written. -/
def userParameters (member : Member) : List Parameter :=
  if member.syntheticContinuation then member.parameters.dropLast else member.parameters

/-- Adds a statement at the end of the body, which a member without one gets. -/
def addStatement (member : Member) (statement : Expr) : Member :=
  { member with body := some (member.body.getD [] ++ [statement]) }

end Member

/-- The kinds of declarations. -/
inductive DeclarationKind where
  /-- a class -/
  | classType
  /-- an interface -/
  | interface
  /-- a singleton object -/
  | object
  /-- the holder of the functions at the top level of a file -/
  | facade
deriving DecidableEq, Repr, Inhabited

/-- Where a declaration was read from. -/
inductive Origin where
  /-- source code -/
  | source
  /-- a compiled library -/
  | compiled
deriving DecidableEq, Repr, Inhabited

/-- An entry of a supertype list. -/
structure SuperTypeEntry where
  /-- the supertype -/
  typeRef : TypeRef
  /-- the constructor call made by the entry, if it makes one -/
  call : Option Call := none
  /-- where the entry stands, if known -/
  range : Option Range := none
deriving Inhabited

/-- The body of a declaration. -/
structure DeclarationBody where
  /-- where the opening brace stands, if known -/
  openBrace : Option Range := none
deriving DecidableEq, Repr, Inhabited

/-- A declaration. -/
structure Declaration where
  /-- the qualified name -/
  qualifiedName : String
  /-- the simple name -/
  name : String
  /-- the package -/
  package : String := ""
  /-- the kind of declaration -/
  kind : DeclarationKind
  /-- where it was read from -/
  origin : Origin := .source
  /-- its annotations -/
  annotations : List Annotation := []
  /-- its supertypes as written -/
  supertypes : List SuperTypeEntry := []
  /-- its members in source order -/
  members : List Member := []
  /-- the path of its module -/
  modulePath : Path := ⟨""⟩
  /-- where the declaration stands, if known -/
  range : Option Range := none
  /-- where its name stands, if known -/
  nameRange : Option Range := none
  /-- its body, if it has one -/
  body : Option DeclarationBody := none
deriving Inhabited

namespace Declaration

/-- A declaration with nothing but a name, which gives its package and simple name. -/
def ofName (qualifiedName : String) (kind : DeclarationKind) : Declaration where
  qualifiedName := qualifiedName
  name := simpleName qualifiedName
  package := packageOf qualifiedName
  kind := kind

/-- Adds an annotation after the others. -/
def annotate (declaration : Declaration) (added : Annotation) : Declaration :=
  { declaration with annotations := declaration.annotations ++ [added] }

/-- Adds an entry at the end of the supertype list. -/
def addSupertype (declaration : Declaration) (entry : SuperTypeEntry) : Declaration :=
  { declaration with supertypes := declaration.supertypes ++ [entry] }

/-- Adds a member after the others. -/
def addMember (declaration : Declaration) (member : Member) : Declaration :=
  { declaration with members := declaration.members ++ [member] }

/-- The constructors in source order. -/
def constructors (declaration : Declaration) : List Member :=
  declaration.members.filter (·.kind == .constructor)

/-- Member number `overload` of those with the given name. -/
def memberNamed? (declaration : Declaration) (name : String) (overload : Nat) : Option Member :=
  (declaration.members.filter (·.name == name))[overload]?

end Declaration

/-- The declarations of one file. -/
structure CompilationUnit where
  /-- the path of the file -/
  path : Path
  /-- its declarations in source order -/
  declarations : List Declaration := []
  /-- the text of the file, if at hand -/
  source : Option String := none
deriving Inhabited

/-- Adds a declaration after the others. -/
def CompilationUnit.addDeclaration (unit : CompilationUnit) (declaration : Declaration) :
    CompilationUnit :=
  { unit with declarations := unit.declarations ++ [declaration] }

end DeclLint
