import DeclLint.Code.Reference

/-!
# Expressions and calls

Expressions are kept as far as rules look into them: calls, lambdas, references, assignments and
literals, and anything else as the list of its parts. The three types are defined together because a
call holds expressions and an expression may be a call.
-/

namespace DeclLint

/-- How a call is made. -/
inductive CallKind where
  /-- an ordinary call -/
  | regular
  /-- the call of a superclass constructor -/
  | superConstructor
  /-- the call of another constructor of the same class -/
  | delegatingConstructor
deriving DecidableEq, Repr, Inhabited

mutual

/-- A call of a function, method or constructor. -/
structure Call where
  /-- the name as written -/
  name : String
  /-- the member called, if it could be resolved -/
  target : Option MemberRef := none
  /-- how the call is made -/
  kind : CallKind := .regular
  /-- the expression before the dot -/
  receiver : Option Expr := none
  /-- the static type of the receiver, explicit or not -/
  receiverType : Option TypeRef := none
  /-- the arguments in the order in which they are written -/
  arguments : List Argument := []
  /-- the explicit type arguments -/
  typeArguments : List TypeRef := []
  /-- the static type of the result, if known -/
  staticType : Option TypeRef := none
  /-- where the call stands, if known -/
  range : Option Range := none
  /-- where its name stands, if known -/
  nameRange : Option Range := none

/-- An argument of a call. -/
structure Argument where
  /-- the value passed -/
  value : Expr
  /-- the index of the parameter it is bound to, if known -/
  parameter : Option Nat := none

/-- An expression. -/
inductive Expr where
  /-- a call -/
  | call (call : Call)
  /-- a lambda with the statements of its body -/
  | lambda (statements : List Expr) (staticType : Option TypeRef) (range : Option Range)
  /-- the use of a variable or property -/
  | reference (name : String) (target : Option MemberRef) (staticType : Option TypeRef)
      (range : Option Range)
  /-- an assignment, which has no type of its own -/
  | assign (target value : Expr) (range : Option Range)
  /-- a literal -/
  | literal (text : String) (staticType : Option TypeRef) (range : Option Range)
  /-- any other expression, with its parts -/
  | other (children : List Expr) (staticType : Option TypeRef) (range : Option Range)

end

instance : Inhabited Expr := ⟨.literal "" none none⟩

instance : Inhabited Argument := ⟨{ value := default }⟩

instance : Inhabited Call := ⟨{ name := "" }⟩

namespace Expr

/-- The static type of an expression, if known. -/
def staticType : Expr → Option TypeRef
  | call c => c.staticType
  | lambda _ type _ => type
  | reference _ _ type _ => type
  | assign .. => none
  | literal _ type _ => type
  | other _ type _ => type

/-- Where an expression stands, if known. -/
def range : Expr → Option Range
  | call c => c.range
  | lambda _ _ range => range
  | reference _ _ _ range => range
  | assign _ _ range => range
  | literal _ _ range => range
  | other _ _ range => range

end Expr

namespace Call

/-- Sets the receiver. Its static type becomes the receiver type, unless one is recorded already. -/
def withReceiver (call : Call) (receiver : Expr) : Call :=
  { call with
    receiver := some receiver
    receiverType := call.receiverType.or receiver.staticType }

/-- Adds an argument after the others. -/
def addArgument (call : Call) (argument : Argument) : Call :=
  { call with arguments := call.arguments ++ [argument] }

/-- Adds an explicit type argument after the others. -/
def addTypeArgument (call : Call) (type : TypeRef) : Call :=
  { call with typeArguments := call.typeArguments ++ [type] }

/-- The first argument bound to the parameter with the given index. -/
def argumentFor? (call : Call) (parameter : Nat) : Option Argument :=
  call.arguments.find? (·.parameter == some parameter)

/-- The range findings about the call point at: its name, or else the whole call. -/
def reportRange (call : Call) : Option Range := call.nameRange.or call.range

end Call

end DeclLint
