import DeclLint.Code.Declaration

/-!
# Walking through code

A walk shows the nodes of a tree to a visitor, in the order in which they stand in the source: what
a call is made on comes before the call, the call before its arguments, and any other expression
before its parts. The visitor threads a state and may halt the walk after any node.

* `Walk` — a piece of a walk, and `Walk.andThen`, which goes on unless the walk was halted;
* `Expr.walk` — every sub-expression;
* `Expr.walkCalls`, `Call.walkCalls`, `Member.walkCalls`, `Declaration.walkCalls` — every call.

Beside them, `Expr.subterms` and the functions `calls` list the same nodes.
-/

namespace DeclLint

/-- Whether a walk goes on. -/
inductive Flow where
  /-- on to the next node -/
  | next
  /-- no further node is visited -/
  | halt
deriving DecidableEq, Repr, Inhabited

/-- A piece of a walk: it changes the visitor's state and may halt. -/
def Walk (σ : Type) : Type := σ → Flow × σ

namespace Walk

variable {σ α : Type}

/-- The walk that visits nothing. -/
def done : Walk σ := fun state => (.next, state)

/-- One walk after the other, unless the first one halts. -/
def andThen (first second : Walk σ) : Walk σ := fun state =>
  match first state with
  | (.next, state) => second state
  | (.halt, state) => (.halt, state)

/-- Walks through a list from left to right. -/
def each (visit : α → Walk σ) : List α → Walk σ
  | [] => done
  | a :: rest => (visit a).andThen (each visit rest)

/-- Walks through what is there. -/
def optional (visit : α → Walk σ) : Option α → Walk σ
  | none => done
  | some a => visit a

/-- Visits and goes on in any case. -/
def collect (f : α → σ → σ) (a : α) : Walk σ := fun state => (.next, f a state)

/-- Notes whether some node passes the test, and halts at the first that does. -/
def search (test : α → Bool) (a : α) : Walk (Option α) := fun found =>
  if test a then (.halt, some a) else (.next, found)

end Walk

/-! ## Expressions -/

namespace Expr

variable {σ : Type}

mutual

/-- Visits every sub-expression, the expression itself included. -/
def walk (visit : Expr → Walk σ) : Expr → Walk σ
  | call c => walkCall visit (visit (call c)) c
  | lambda statements type range =>
    (visit (lambda statements type range)).andThen (walkList visit statements)
  | reference name target type range => visit (reference name target type range)
  | assign target value range =>
    (visit (assign target value range)).andThen ((walk visit target).andThen (walk visit value))
  | literal text type range => visit (literal text type range)
  | other children type range =>
    (visit (other children type range)).andThen (walkList visit children)

/-- Visits what a call is made on, then the call itself by `here`, then its arguments. -/
def walkCall (visit : Expr → Walk σ) (here : Walk σ) : Call → Walk σ
  | { receiver := receiver, arguments := arguments, .. } =>
    (walkOption visit receiver).andThen (here.andThen (walkArguments visit arguments))

/-- Visits an expression that may be absent. -/
def walkOption (visit : Expr → Walk σ) : Option Expr → Walk σ
  | none => Walk.done
  | some expr => walk visit expr

/-- Visits the expressions of a list. -/
def walkList (visit : Expr → Walk σ) : List Expr → Walk σ
  | [] => Walk.done
  | expr :: rest => (walk visit expr).andThen (walkList visit rest)

/-- Visits the values of arguments. -/
def walkArguments (visit : Expr → Walk σ) : List Argument → Walk σ
  | [] => Walk.done
  | { value := value, .. } :: rest => (walk visit value).andThen (walkArguments visit rest)

end

/-- Shows calls to a visitor of calls, and passes over other expressions. -/
def onCall (visit : Call → Walk σ) : Expr → Walk σ
  | call c => visit c
  | _ => Walk.done

/-- Visits every call in an expression. -/
def walkCalls (visit : Call → Walk σ) (expr : Expr) : Walk σ := expr.walk (onCall visit)

mutual

/-- The sub-expressions in the order of a walk. -/
def subterms : Expr → List Expr
  | call c => callSubterms (call c) c
  | lambda statements type range => lambda statements type range :: listSubterms statements
  | reference name target type range => [reference name target type range]
  | assign target value range => assign target value range :: (target.subterms ++ value.subterms)
  | literal text type range => [literal text type range]
  | other children type range => other children type range :: listSubterms children

/-- The sub-expressions of a call, which itself is listed as `self`. -/
def callSubterms (self : Expr) : Call → List Expr
  | { receiver := receiver, arguments := arguments, .. } =>
    optionSubterms receiver ++ self :: argumentSubterms arguments

/-- The sub-expressions of an expression that may be absent. -/
def optionSubterms : Option Expr → List Expr
  | none => []
  | some expr => expr.subterms

/-- The sub-expressions of all expressions of a list. -/
def listSubterms : List Expr → List Expr
  | [] => []
  | expr :: rest => expr.subterms ++ listSubterms rest

/-- The sub-expressions of all arguments. -/
def argumentSubterms : List Argument → List Expr
  | [] => []
  | { value := value, .. } :: rest => value.subterms ++ argumentSubterms rest

end

/-- The call an expression is, if it is one. -/
def asCall? : Expr → Option Call
  | call c => some c
  | _ => none

/-- The calls in an expression, in the order of a walk. -/
def calls (expr : Expr) : List Call := expr.subterms.filterMap asCall?

end Expr

/-! ## Calls, members and declarations -/

namespace Call

variable {σ : Type}

/-- Visits the calls in the receiver, the call itself and the calls in its arguments. -/
def walkCalls (visit : Call → Walk σ) (call : Call) : Walk σ :=
  (Walk.optional (Expr.walkCalls visit) call.receiver).andThen
    ((visit call).andThen
      (Walk.each (fun argument => Expr.walkCalls visit argument.value) call.arguments))

/-- The calls in a call, in the order of a walk. -/
def calls (call : Call) : List Call := (Expr.call call).calls

end Call

namespace Member

variable {σ : Type}

/-- Visits the calls of the delegation, of the default values and of the body. -/
def walkCalls (visit : Call → Walk σ) (member : Member) : Walk σ :=
  (Walk.optional (Call.walkCalls visit) member.delegation).andThen
    ((Walk.each (fun parameter => Walk.optional (Expr.walkCalls visit) parameter.defaultValue)
        member.parameters).andThen
      (Walk.each (Expr.walkCalls visit) (member.body.getD [])))

/-- The calls in a member, in the order of a walk. -/
def calls (member : Member) : List Call :=
  member.delegation.toList.flatMap Call.calls ++
    (member.parameters.filterMap (·.defaultValue)).flatMap Expr.calls ++
    (member.body.getD []).flatMap Expr.calls

end Member

namespace Declaration

variable {σ : Type}

/-- Visits the calls of the supertype list, then those of the members. -/
def walkCalls (visit : Call → Walk σ) (declaration : Declaration) : Walk σ :=
  (Walk.each (fun entry => Walk.optional (Call.walkCalls visit) entry.call)
      declaration.supertypes).andThen
    (Walk.each (Member.walkCalls visit) declaration.members)

/-- The calls in a declaration, in the order of a walk. -/
def calls (declaration : Declaration) : List Call :=
  (declaration.supertypes.filterMap (·.call)).flatMap Call.calls ++
    declaration.members.flatMap Member.calls

end Declaration

end DeclLint
