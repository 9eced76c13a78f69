import DeclLint.Code.Walk

/-!
# A walk goes through the list of its nodes

Every walk through code is `Walk.each` over the list of the nodes it visits: `Expr.walk` over
`Expr.subterms`, and the walks through calls over the lists `calls`. Everything a visitor does (what
it finds, where it halts, what it collects) then is a matter of lists.
-/

namespace DeclLint

/-! ### Pieces of walks -/

namespace Walk

variable {σ α β : Type}

@[simp] theorem andThen_done (walk : Walk σ) : walk.andThen done = walk := by
  funext state
  rw [andThen]
  rcases walk state with ⟨_ | _, state'⟩ <;> rfl

/-- Walks in sequence may be grouped in any way: once one of them halts, none of those behind it is
begun. -/
theorem andThen_assoc (first second third : Walk σ) :
    (first.andThen second).andThen third = first.andThen (second.andThen third) := by
  funext state
  simp only [andThen]
  rcases first state with ⟨_ | _, state'⟩ <;> rfl

/-- **A walk over two lists** is a walk over the first, and then, unless it halts there, over the
second. -/
theorem each_append (visit : α → Walk σ) (xs ys : List α) :
    each visit (xs ++ ys) = (each visit xs).andThen (each visit ys) := by
  induction xs with
  | nil => rfl
  | cons a xs ih => rw [List.cons_append, each, each, ih, andThen_assoc]

theorem each_singleton (visit : α → Walk σ) (a : α) : each visit [a] = visit a :=
  andThen_done (visit a)

/-- Nodes that are listed for each element of a list may be visited list by list. -/
theorem each_flatMap (visit : β → Walk σ) (nodes : α → List β) (xs : List α) :
    each visit (xs.flatMap nodes) = each (fun a => each visit (nodes a)) xs := by
  induction xs with
  | nil => rfl
  | cons a xs ih => rw [List.flatMap_cons, each_append, each, ih]

/-- Nodes that are missing are passed over. -/
theorem each_filterMap (visit : β → Walk σ) (node : α → Option β) (xs : List α) :
    each visit (xs.filterMap node) = each (fun a => optional visit (node a)) xs := by
  induction xs with
  | nil => rfl
  | cons a xs ih =>
    rcases hnode : node a with _ | b
    · rw [List.filterMap_cons_none hnode, each, hnode, ih]
      rfl
    · rw [List.filterMap_cons_some hnode, each, each, hnode, ih]
      rfl

theorem each_toList (visit : α → Walk σ) (node : Option α) :
    each visit node.toList = optional visit node := by
  cases node with
  | none => rfl
  | some a => exact each_singleton visit a

/-- A visitor that never halts folds over the nodes, in the order of the walk. -/
theorem each_collect (f : α → σ → σ) (xs : List α) (state : σ) :
    each (collect f) xs state = (.next, xs.foldl (fun state a => f a state) state) := by
  induction xs generalizing state with
  | nil => rfl
  | cons a xs ih =>
    rw [each, andThen, List.foldl_cons]
    exact ih (f a state)

/-- **A search halts at the first node that passes the test**, and goes through all nodes if none
does. What was found before is then still there. -/
theorem each_search (test : α → Bool) (xs : List α) (found : Option α) :
    each (search test) xs found =
      match xs.find? test with
      | some a => (.halt, some a)
      | none => (.next, found) := by
  induction xs with
  | nil => rfl
  | cons a xs ih =>
    rw [each, andThen, search]
    rcases htest : test a with _ | _
    · rw [List.find?_cons_of_neg (by simp [htest])]
      exact ih
    · rw [List.find?_cons_of_pos htest]
      rfl

end Walk

/-! ### Expressions -/

namespace Expr

variable {σ : Type} (visit : Expr → Walk σ)

mutual

/-- **A walk through an expression** visits the list of its sub-expressions. The walk and the list
are built by the same recursion, together with those for calls, arguments and lists. -/
theorem walk_eq_each : ∀ expr : Expr, expr.walk visit = Walk.each visit expr.subterms
  | call c => by
    rw [walk, subterms]
    exact walkCall_eq_each (call c) c
  | lambda statements type range => by
    rw [walk, subterms, Walk.each, walkList_eq_each statements]
  | reference name target type range => by
    rw [walk, subterms, Walk.each_singleton]
  | assign target value range => by
    rw [walk, subterms, Walk.each, Walk.each_append, walk_eq_each target, walk_eq_each value]
  | literal text type range => by
    rw [walk, subterms, Walk.each_singleton]
  | other children type range => by
    rw [walk, subterms, Walk.each, walkList_eq_each children]

theorem walkCall_eq_each (self : Expr) : ∀ c : Call,
    walkCall visit (visit self) c = Walk.each visit (callSubterms self c)
  | { receiver := receiver, arguments := arguments, .. } => by
    rw [walkCall, callSubterms, Walk.each_append, Walk.each, walkOption_eq_each receiver,
      walkArguments_eq_each arguments]

theorem walkOption_eq_each : ∀ expr : Option Expr,
    walkOption visit expr = Walk.each visit (optionSubterms expr)
  | none => rfl
  | some expr => by
    rw [walkOption, optionSubterms, walk_eq_each expr]

theorem walkList_eq_each : ∀ exprs : List Expr,
    walkList visit exprs = Walk.each visit (listSubterms exprs)
  | [] => rfl
  | expr :: rest => by
    rw [walkList, listSubterms, Walk.each_append, walk_eq_each expr, walkList_eq_each rest]

theorem walkArguments_eq_each : ∀ arguments : List Argument,
    walkArguments visit arguments = Walk.each visit (argumentSubterms arguments)
  | [] => rfl
  | { value := value, .. } :: rest => by
    rw [walkArguments, argumentSubterms, Walk.each_append, walk_eq_each value,
      walkArguments_eq_each rest]

end

/-- A visitor of calls passes over all other expressions. -/
theorem onCall_eq_optional (visit : Call → Walk σ) (expr : Expr) :
    onCall visit expr = Walk.optional visit expr.asCall? := by
  cases expr <;> rfl

/-- **A walk through the calls of an expression** visits the list of its calls, which are its
sub-expressions that are calls. -/
theorem walkCalls_eq_each (visit : Call → Walk σ) (expr : Expr) :
    expr.walkCalls visit = Walk.each visit expr.calls := by
  rw [walkCalls, calls, walk_eq_each, Walk.each_filterMap]
  congr 1
  funext expr
  exact onCall_eq_optional visit expr

theorem optionSubterms_eq (expr : Option Expr) :
    optionSubterms expr = expr.toList.flatMap subterms := by
  cases expr with
  | none => rfl
  | some expr => rw [optionSubterms, Option.toList_some, List.flatMap_singleton]

theorem argumentSubterms_eq (arguments : List Argument) :
    argumentSubterms arguments = arguments.flatMap (·.value.subterms) := by
  induction arguments with
  | nil => rfl
  | cons argument rest ih =>
    obtain ⟨value, parameter⟩ := argument
    rw [argumentSubterms, List.flatMap_cons, ih]

/-- The receiver comes before the call, and the arguments behind it. -/
theorem callSubterms_eq (self : Expr) (c : Call) :
    callSubterms self c =
      c.receiver.toList.flatMap subterms ++ self :: c.arguments.flatMap (·.value.subterms) := by
  cases c
  rw [callSubterms, optionSubterms_eq, argumentSubterms_eq]

/-- The calls of a call expression: those of the receiver, the call, those of the arguments. -/
theorem calls_call (c : Call) :
    (call c).calls =
      c.receiver.toList.flatMap calls ++ c :: c.arguments.flatMap (·.value.calls) := by
  have hself : asCall? (call c) = some c := rfl
  rw [calls, subterms, callSubterms_eq, List.filterMap_append, List.filterMap_cons_some hself,
    List.filterMap_flatMap, List.filterMap_flatMap]
  rfl

end Expr

/-! ### Calls, members and declarations -/

section Calls

variable {σ : Type} (visit : Call → Walk σ)

theorem Call.walkCalls_eq_each (call : Call) :
    call.walkCalls visit = Walk.each visit call.calls := by
  rw [walkCalls, calls, Expr.calls_call, Walk.each_append, Walk.each, Walk.each_flatMap,
    Walk.each_flatMap, Walk.each_toList]
  simp only [← Expr.walkCalls_eq_each]

/-- A walk through a member visits its delegation, its default values and its body, in this
order. -/
theorem Member.walkCalls_eq_each (member : Member) :
    member.walkCalls visit = Walk.each visit member.calls := by
  rw [walkCalls, calls, Walk.each_append, Walk.each_append, Walk.each_flatMap, Walk.each_flatMap,
    Walk.each_flatMap, Walk.each_toList, Walk.each_filterMap, Walk.andThen_assoc]
  simp only [← Expr.walkCalls_eq_each, ← Call.walkCalls_eq_each]

/-- **A walk through a declaration** visits the list of its calls: those of the supertype list, then
those of each member. -/
theorem Declaration.walkCalls_eq_each (declaration : Declaration) :
    declaration.walkCalls visit = Walk.each visit declaration.calls := by
  rw [walkCalls, calls, Walk.each_append, Walk.each_flatMap, Walk.each_flatMap, Walk.each_filterMap]
  simp only [← Call.walkCalls_eq_each, ← Member.walkCalls_eq_each]

end Calls

end DeclLint
