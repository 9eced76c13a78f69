import DeclLint.Code.Declaration

/-!
# Resolution

An `Oracle` knows declarations by qualified name. Every other question about types, members and
calls is answered through that look-up; where it has no answer, nothing can be concluded.

* `Oracle.resolve`, `Oracle.resolveMember`, `Oracle.resolveCall` — what a reference stands for;
* `Oracle.isSubtypeOf` — the type or one of its supertypes, through any number of declarations. The
  search goes through cyclic hierarchies too: no declaration is expanded twice.
-/

namespace DeclLint

/-- An index of declarations. -/
structure Oracle where
  /-- the declaration of a qualified name -/
  declaration : String → Option Declaration
  /-- the names of all declarations the index can give -/
  names : List String
  /-- every declaration given bears one of the names -/
  mem_names : ∀ {name : String} {found : Declaration},
    declaration name = some found → found.qualifiedName ∈ names

/-- A member together with the declaration it belongs to. -/
structure ResolvedMember where
  /-- the declaration -/
  owner : Declaration
  /-- the member -/
  member : Member

namespace Oracle

variable (oracle : Oracle)

/-- The declaration of a type. -/
def resolve (type : TypeRef) : Option Declaration := type.target.bind oracle.declaration

/-- The member a reference stands for. -/
def resolveMember (reference : MemberRef) : Option ResolvedMember := do
  let owner ← oracle.declaration reference.owner
  let member ← owner.memberNamed? reference.name reference.overload
  return { owner, member }

/-- The member a call goes to. -/
def resolveCall (call : Call) : Option ResolvedMember := call.target.bind oracle.resolveMember

/-- The names that are left when one is visited. -/
def leave (name : String) (unvisited : List String) : List String := unvisited.filter (· != name)

theorem length_leave_lt {name : String} {unvisited : List String} (h : name ∈ unvisited) :
    (leave name unvisited).length < unvisited.length := by
  refine Nat.lt_of_le_of_ne (List.length_filter_le _ _) fun heq => ?_
  have hall := List.length_filter_eq_length_iff.1 heq _ h
  simp at hall

/-- The declarations of the supertypes that resolve to one, the last one first. -/
def parents (current : Declaration) : List Declaration :=
  (current.supertypes.filterMap (oracle.resolve ·.typeRef)).reverse

/-- Searches the supertypes of the declarations in `pending` for `name`. A declaration is expanded
only while its name is in `unvisited`. -/
def search (name : String) (unvisited : List String) (pending : List Declaration) : Bool :=
  match pending with
  | [] => false
  | current :: rest =>
    if current.qualifiedName = name then
      true
    else if current.qualifiedName ∈ unvisited then
      if current.supertypes.any (·.typeRef.isNamed name) then
        true
      else
        search name (leave current.qualifiedName unvisited) (oracle.parents current ++ rest)
    else
      search name unvisited rest
termination_by (unvisited.length, pending.length)
decreasing_by
  · rename_i h _
    exact Prod.Lex.left _ _ (length_leave_lt h)
  · apply Prod.Lex.right
    simp

/-- Whether the declaration has the given name, or has a supertype of that name. -/
def declarationIsSubtypeOf (declaration : Declaration) (name : String) : Bool :=
  oracle.search name (declaration.qualifiedName :: oracle.names) [declaration]

/-- Whether the type has the given name, or has a supertype of that name. -/
def isSubtypeOf (type : TypeRef) (name : String) : Bool :=
  type.isNamed name ||
    match oracle.resolve type with
    | none => false
    | some declaration => oracle.declarationIsSubtypeOf declaration name

end Oracle

end DeclLint
