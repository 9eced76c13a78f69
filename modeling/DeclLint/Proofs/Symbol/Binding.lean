import DeclLint.Symbol.Function

/-!
# Arguments and the parameters they are bound to

A call is bound to the member it goes to argument by argument: each argument may carry the index of
a parameter. Rules look for the first argument, in the order in which arguments are written, that is
bound to a parameter of some kind (`Call.BindsFirst`), and those about a designated function for the
first one bound to its parameter of a given name (`Call.Passes`).
-/

namespace DeclLint

/-- The argument is bound to a parameter of the member that satisfies `p`. -/
def Argument.BoundTo (argument : Argument) (member : Member) (p : Parameter → Prop) : Prop :=
  ∃ index parameter, argument.parameter = some index ∧ member.parameters[index]? = some parameter ∧
    p parameter

namespace Call

/-- The argument is the first one of the call that is bound to a parameter that satisfies `p`. -/
def BindsFirst (call : Call) (member : Member) (p : Parameter → Prop) (argument : Argument) :
    Prop :=
  ∃ before after, call.arguments = before ++ argument :: after ∧ argument.BoundTo member p ∧
    ∀ other ∈ before, ¬ other.BoundTo member p

/-- The call resolves to a member of the function's name, in the function's package. -/
structure GoesTo (call : Call) (oracle : Oracle) (function : FunctionName)
    (target : ResolvedMember) : Prop where
  /-- what the call resolves to -/
  resolves : oracle.resolveCall call = some target
  /-- the name of the function -/
  name : target.member.name = function.name
  /-- the package of the function -/
  package : target.owner.package = function.package

/-- The call is written by the function's name and goes to the function, and the argument is the
first one bound to the function's parameter of the given name. -/
structure Passes (call : Call) (oracle : Oracle) (function : FunctionName) (parameter : String)
    (argument : Argument) : Prop where
  /-- the name by which the call is written -/
  named : call.name = function.name
  /-- what the call goes to, and how the argument is bound -/
  bound : ∃ target, call.GoesTo oracle function target ∧
    call.BindsFirst target.member (·.name = parameter) argument

variable {call : Call}

/-- An argument is bound by the number of its parameter. It is bound to none if there is no number,
or no parameter of that number. -/
theorem any_bound_iff {argument : Argument} {member : Member} {test : Parameter → Bool} :
    (argument.parameter.bind (member.parameters[·]?)).any test = true ↔
      argument.BoundTo member (test · = true) := by
  rw [Option.any_eq_true]
  constructor
  · rintro ⟨parameter, hparameter, htest⟩
    obtain ⟨index, hindex, hmember⟩ := Option.bind_eq_some_iff.1 hparameter
    exact ⟨index, parameter, hindex, hmember, htest⟩
  · rintro ⟨index, parameter, hindex, hmember, htest⟩
    exact ⟨parameter, Option.bind_eq_some_iff.2 ⟨index, hindex, hmember⟩, htest⟩

/-- **A look-up among the arguments finds the first bound one**, in the order in which they are
written at the call. -/
theorem find?_bound_eq_some_iff {member : Member} {test : Parameter → Bool} {argument : Argument} :
    (call.arguments.find? fun argument =>
        (argument.parameter.bind (member.parameters[·]?)).any test) = some argument ↔
      call.BindsFirst member (test · = true) argument := by
  rw [List.find?_eq_some_iff_append]
  constructor
  · rintro ⟨hbound, before, after, harguments, hbefore⟩
    refine ⟨before, after, harguments, any_bound_iff.1 hbound, fun other hother hbound' => ?_⟩
    have hnot := hbefore other hother
    rw [any_bound_iff.2 hbound'] at hnot
    cases hnot
  · rintro ⟨before, after, harguments, hbound, hbefore⟩
    refine ⟨any_bound_iff.2 hbound, before, after, harguments, fun other hother => ?_⟩
    rw [Bool.not_eq_true', ← Bool.not_eq_true]
    exact fun hany => hbefore other hother (any_bound_iff.1 hany)

/-- Arguments are looked up by the name of the parameter they are bound to, not by a name at the
call. -/
theorem argumentNamed?_eq_some_iff {target : ResolvedMember} {parameter : String}
    {argument : Argument} :
    call.argumentNamed? target parameter = some argument ↔
      call.BindsFirst target.member (·.name = parameter) argument := by
  rw [argumentNamed?, find?_bound_eq_some_iff]
  simp only [beq_iff_eq]

end Call

/-- A call goes to a designated function when its target has that name, in that package. -/
theorem FunctionName.resolve_eq_some_iff {function : FunctionName} {oracle : Oracle} {call : Call}
    {target : ResolvedMember} :
    function.resolve oracle call = some target ↔ call.GoesTo oracle function target := by
  rw [resolve, Option.filter_eq_some_iff, designates, Bool.and_eq_true, beq_iff_eq, beq_iff_eq]
  constructor
  · rintro ⟨hresolves, hname, hpackage⟩
    exact ⟨hresolves, hname, hpackage⟩
  · rintro ⟨hresolves, hname, hpackage⟩
    exact ⟨hresolves, hname, hpackage⟩

namespace Call

/-- The argument that a call of a designated function passes for the parameter of the given name. -/
def passed? (call : Call) (oracle : Oracle) (function : FunctionName) (parameter : String) :
    Option Argument :=
  if call.name != function.name then
    none
  else
    (function.resolve oracle call).bind (call.argumentNamed? · parameter)

/-- **What a call passes to a designated function**: it bears the name of the function, goes there,
and has a first argument bound to the parameter. -/
theorem passed?_eq_some_iff {call : Call} {oracle : Oracle} {function : FunctionName}
    {parameter : String} {argument : Argument} :
    call.passed? oracle function parameter = some argument ↔
      call.Passes oracle function parameter argument := by
  rw [passed?]
  constructor
  · intro h
    split at h
    · cases h
    · next hnamed =>
      obtain ⟨target, htarget, hargument⟩ := Option.bind_eq_some_iff.1 h
      refine ⟨by simpa using hnamed, target, FunctionName.resolve_eq_some_iff.1 htarget, ?_⟩
      exact argumentNamed?_eq_some_iff.1 hargument
  · rintro ⟨hnamed, target, htarget, hargument⟩
    rw [if_neg (by simp [hnamed]), FunctionName.resolve_eq_some_iff.2 htarget, Option.bind_some]
    exact argumentNamed?_eq_some_iff.2 hargument

/-- Looking for the argument step by step, as checks do, and giving up with an empty list. -/
theorem elim_passed? {α : Type} (call : Call) (oracle : Oracle) (function : FunctionName)
    (parameter : String) (check : Argument → List α) :
    (call.passed? oracle function parameter).elim [] check =
      if call.name != function.name then
        []
      else
        match function.resolve oracle call with
        | none => []
        | some target =>
          match call.argumentNamed? target parameter with
          | none => []
          | some argument => check argument := by
  rw [passed?]
  split
  · rfl
  · rcases function.resolve oracle call with _ | target
    · rfl
    · simp only [Option.bind_some]
      rcases call.argumentNamed? target parameter with _ | argument <;> rfl

end Call

end DeclLint
