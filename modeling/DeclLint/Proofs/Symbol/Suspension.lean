import DeclLint.Proofs.Symbol.Alike

/-!
# Members made suspending

A suspending member takes a continuation that nobody wrote. Apart from that it is as before: making
it suspending leaves everything but its parameters alone, and of these the ones that were written. A
property that the continuation does not have holds of the same parameters, so the member is like the
one it was made from (`Member.alike_suspending`).

When some members of declarations and units are made suspending, whichever these are (`Suspended`),
the code is like the code it was made from.
-/

namespace DeclLint

variable {asked : List (Parameter → Bool)}

/-! ### One member -/

namespace Member

variable (member : Member)

/-- Parameters are all that changes. -/
theorem suspending_eq :
    member.suspending =
      { member with
        parameters := member.suspending.parameters
        syntheticContinuation := member.suspending.syntheticContinuation } := by
  rw [suspending]
  split <;> rfl

/-- A continuation is added, unless there is one already. It comes last, so that no other parameter
changes its number. -/
theorem parameters_suspending :
    member.suspending.parameters = member.parameters ∨
      member.suspending.parameters = member.parameters ++ [continuation] := by
  rw [suspending]
  split
  · exact .inl rfl
  · exact .inr rfl

/-- **The parameters that were written stay**, whether or not there was a continuation before. -/
theorem userParameters_suspending :
    member.suspending.userParameters = member.userParameters := by
  rw [suspending]
  split
  · rfl
  · rename_i hsynthetic
    rw [userParameters, userParameters, if_pos rfl, if_neg hsynthetic]
    exact List.dropLast_concat

/-- The continuation has no default value, and so brings no code with it. -/
theorem defaultValues_suspending :
    member.suspending.parameters.filterMap (·.defaultValue) =
      member.parameters.filterMap (·.defaultValue) := by
  rcases member.parameters_suspending with hsame | hadded
  · rw [hsame]
  · rw [hadded, List.filterMap_append]
    exact List.append_nil _

/-- A property the continuation does not have holds at the same places: where the continuation
stands there was no parameter before. -/
theorem any_getElem?_suspending {p : Parameter → Bool} (hp : p continuation = false) (index : Nat) :
    (member.suspending.parameters[index]?).any p = (member.parameters[index]?).any p := by
  rcases member.parameters_suspending with hsame | hadded
  · rw [hsame]
  · rw [hadded]
    rcases Nat.lt_or_ge index member.parameters.length with hlt | hge
    · rw [List.getElem?_append_left hlt]
    · rw [List.getElem?_append_right hge, List.getElem?_eq_none hge]
      rcases index - member.parameters.length with _ | rest
      · exact hp
      · rfl

/-- **A suspending member is like the one it was made from**, for whoever asks only what is false of
the continuation. -/
theorem alike_suspending (hasked : ∀ p ∈ asked, p continuation = false) :
    member.Alike asked member.suspending where
  same := member.suspending_eq
  userParameters := member.userParameters_suspending
  defaultValues := member.defaultValues_suspending
  parameters p hp := member.any_getElem?_suspending (hasked p hp)

end Member

/-! ### Some members of all -/

/-- The member is as before, or made suspending. -/
def Member.Suspended (before after : Member) : Prop := after = before ∨ after = before.suspending

/-- Some of the members are made suspending. -/
def Declaration.Suspended (before after : Declaration) : Prop :=
  ∃ members, before.members.Forall₂ Member.Suspended members ∧ after = { before with members }

/-- Some of the members of a unit are made suspending. -/
def CompilationUnit.Suspended (before after : CompilationUnit) : Prop :=
  ∃ declarations, before.declarations.Forall₂ Declaration.Suspended declarations ∧
    after = { before with declarations }

section

variable (hasked : ∀ p ∈ asked, p Member.continuation = false)
include hasked

theorem Member.Suspended.alike {before after : Member} (h : before.Suspended after) :
    before.Alike asked after := by
  rcases h with rfl | rfl
  · exact .refl after
  · exact before.alike_suspending hasked

/-- Declarations are alike when some of their members are made suspending, for these are alike one
by one. -/
theorem Declaration.Suspended.alike {before after : Declaration} (h : before.Suspended after) :
    before.Alike asked after := by
  obtain ⟨members, hmembers, rfl⟩ := h
  exact ⟨rfl, hmembers.imp fun _ _ hmember => hmember.alike hasked⟩

/-- **Code in which some members are made suspending** is like the code before. -/
theorem CompilationUnit.Suspended.alike {before after : CompilationUnit}
    (h : before.Suspended after) : before.Alike asked after := by
  obtain ⟨declarations, hdeclarations, rfl⟩ := h
  exact ⟨rfl, hdeclarations.imp fun _ _ hdeclaration => hdeclaration.alike hasked⟩

end

end DeclLint
