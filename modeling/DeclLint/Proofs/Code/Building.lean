import DeclLint.Code.Declaration

/-!
# Members built step by step

Members are built from a kind and a name by adding parameters and by making them suspending, in any
order (`Member.Operation`). A continuation may therefore be there before the parameters that belong
in front of it, and be asked for more than once.

However a member was built, it has a plain form (`Member.withParameters`): the parameters that were
added, in the order in which they were, and behind them one continuation if the member is
suspending. Each operation leads from a plain form to a plain form (`Member.apply_withParameters`),
and so does a run (`Member.applyAll_withParameters`).
-/

namespace DeclLint

namespace Member

/-! ### The plain form -/

/-- The member with the given parameters that were written, and a continuation behind them if it is
suspending. -/
def withParameters (member : Member) (written : List Parameter) (suspends : Bool) : Member :=
  { member with
    parameters := written ++ if suspends then [continuation] else []
    syntheticContinuation := suspends }

section PlainForm

variable (member : Member) (written : List Parameter)

/-- The written parameters are read back, with a continuation behind them or without. -/
@[simp] theorem userParameters_withParameters (suspends : Bool) :
    (member.withParameters written suspends).userParameters = written := by
  cases suspends with
  | false => exact List.append_nil written
  | true => exact List.dropLast_concat

/-- **A parameter is added in front of the continuation**, if there is one, and last otherwise. -/
theorem addParameter_withParameters (suspends : Bool) (added : Parameter) :
    (member.withParameters written suspends).addParameter added =
      member.withParameters (written ++ [added]) suspends := by
  cases suspends with
  | false =>
    rw [addParameter, if_neg (by simp [withParameters])]
    simp [withParameters]
  | true =>
    have hlast : (written ++ [continuation]).dropLast ++
        added :: (written ++ [continuation]).getLast?.toList =
          written ++ [added] ++ [continuation] := by
      rw [List.dropLast_concat, List.getLast?_concat, List.append_assoc]
      rfl
    rw [addParameter, if_pos (by simp [withParameters])]
    simp only [withParameters, if_true, hlast]

/-- **A continuation is added once**, however often a member is made suspending. -/
theorem suspending_withParameters (suspends : Bool) :
    (member.withParameters written suspends).suspending = member.withParameters written true := by
  cases suspends with
  | false =>
    rw [suspending, if_neg (by simp [withParameters])]
    simp [withParameters]
  | true => exact if_pos rfl

end PlainForm

/-! ### Sequences of operations -/

/-- A way to go on building a member. -/
inductive Operation where
  /-- adds a parameter -/
  | addParameter (added : Parameter)
  /-- makes the member suspending -/
  | suspending

/-- The parameters an operation adds. -/
def Operation.written : Operation → List Parameter
  | addParameter added => [added]
  | suspending => []

/-- Whether an operation makes the member suspending. -/
def Operation.suspends : Operation → Bool
  | addParameter _ => false
  | suspending => true

/-- Carries an operation out. -/
def apply (member : Member) : Operation → Member
  | .addParameter added => member.addParameter added
  | .suspending => member.suspending

/-- Carries operations out, one after the other. -/
def applyAll (member : Member) (operations : List Operation) : Member :=
  operations.foldl apply member

/-- **A step** adds its parameter behind those that were written, and leaves the member suspending
if it was. -/
theorem apply_withParameters (member : Member) (written : List Parameter) (suspends : Bool)
    (operation : Operation) :
    (member.withParameters written suspends).apply operation =
      member.withParameters (written ++ operation.written) (suspends || operation.suspends) := by
  cases operation with
  | addParameter added =>
    rw [Operation.suspends, Bool.or_false]
    exact member.addParameter_withParameters written suspends added
  | suspending =>
    rw [Operation.written, List.append_nil, Operation.suspends, Bool.or_true]
    exact member.suspending_withParameters written suspends

/-- **A run** adds its parameters in the order of the operations. The induction is on the
operations, with the parameters that were written so far. -/
theorem applyAll_withParameters (member : Member) (written : List Parameter) (suspends : Bool)
    (operations : List Operation) :
    (member.withParameters written suspends).applyAll operations =
      member.withParameters (written ++ operations.flatMap (·.written))
        (suspends || operations.any (·.suspends)) := by
  induction operations generalizing written suspends with
  | nil => rw [List.flatMap_nil, List.append_nil, List.any_nil, Bool.or_false]; rfl
  | cons operation rest ih =>
    calc (member.withParameters written suspends).applyAll (operation :: rest)
        = ((member.withParameters written suspends).apply operation).applyAll rest := rfl
      _ = (member.withParameters (written ++ operation.written)
            (suspends || operation.suspends)).applyAll rest := by rw [apply_withParameters]
      _ = member.withParameters (written ++ operation.written ++ rest.flatMap (·.written))
            (suspends || operation.suspends || rest.any (·.suspends)) := ih _ _
      _ = member.withParameters (written ++ (operation :: rest).flatMap (·.written))
            (suspends || (operation :: rest).any (·.suspends)) := by
          rw [List.append_assoc, Bool.or_assoc, List.flatMap_cons, List.any_cons]

/-- **The continuation stays last**, whatever the order of the operations that build a member from
its kind and name. The parameters that were written are those that were added, in their order.
Behind them there is one continuation if some operation made the member suspending, and nothing
otherwise; all else is as in the beginning. -/
theorem applyAll_keeps_continuation_last (kind : MemberKind) (name : String)
    (operations : List Operation) :
    let written := operations.flatMap (·.written)
    let suspends := operations.any (·.suspends)
    let built := ({ kind, name } : Member).applyAll operations
    built.userParameters = written ∧
    built =
      { kind, name
        parameters := written ++
          if suspends then
            [{ name := "$completion", typeRef := .resolved "kotlin.coroutines.Continuation" }]
          else []
        syntheticContinuation := suspends } := by
  intro written suspends built
  have hbuilt : built = ({ kind, name } : Member).withParameters written suspends :=
    applyAll_withParameters { kind, name } [] false operations
  rw [hbuilt]
  exact ⟨userParameters_withParameters _ written suspends, rfl⟩

end Member

end DeclLint
