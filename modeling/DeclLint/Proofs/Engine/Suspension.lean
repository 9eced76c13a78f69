import DeclLint.Proofs.Engine.Alike
import DeclLint.Proofs.Engine.Report
import DeclLint.Proofs.Symbol.Suspension
import DeclLint.Rules.Preset

/-!
# The continuation is invisible

Whichever members are made suspending, in the units or in the library they are resolved against, a
pass has the same result (`Engine.analyze_eq_of_suspended`). Three rules look at the parameters that
were written only. The other three go by all parameters, so their names must not lead to the
continuation (`Builtin.OverlooksContinuation`): then nothing they ask is true of it, and code with
more continuations is like the code before for them.
-/

namespace DeclLint

namespace Builtin

/-- The names of a rule do not lead to the continuation: its type is not below a type the rule asks
for among all parameters, and the rule does not ask for a parameter of its name. -/
def OverlooksContinuation (oracle : Oracle) : Builtin → Prop
  | mandatoryCall rule =>
    oracle.isSubtypeOf Member.continuation.typeRef rule.preconditions = false
  | restrictedOperator rule => rule.blockParameter ≠ Member.continuation.name
  | producingState rule =>
    oracle.isSubtypeOf Member.continuation.typeRef rule.scope = false ∧
      oracle.isSubtypeOf Member.continuation.typeRef rule.mutableState = false ∧
      rule.producerParameter ≠ Member.continuation.name
  | internalApiBoundary _ | requiredTag _ | nonVoidMemoization _ => True

/-- **What a rule asks is false of the continuation**, where its names do not lead there. -/
theorem OverlooksContinuation.questions {rule : Builtin} {oracle : Oracle}
    (h : rule.OverlooksContinuation oracle) :
    ∀ p ∈ rule.questions oracle, p Member.continuation = false := by
  cases rule with
  | mandatoryCall rule => exact List.forall_mem_singleton.2 h
  | restrictedOperator rule => exact List.forall_mem_singleton.2 (beq_eq_false_iff_ne.2 h.symm)
  | producingState rule =>
    obtain ⟨hscope, hstate, hproducer⟩ := h
    refine List.forall_mem_cons.2 ⟨beq_eq_false_iff_ne.2 hproducer.symm, ?_⟩
    -- what is not below the mutable state is not the mutable state itself
    rw [Oracle.isSubtypeOf, Bool.or_eq_false_iff] at hstate
    exact List.forall_mem_singleton.2 (Bool.or_eq_false_iff.2 ⟨hscope, hstate.1⟩)
  | internalApiBoundary | requiredTag | nonVoidMemoization => exact List.forall_mem_nil _

end Builtin

namespace Engine

/-- What the rules that go by written parameters take from a member is the same for both. -/
structure TakesAlike (before after : Member) : Prop where
  /-- which tags are missing or wrong, and what is said about them -/
  tags : ∀ (rule : RequiredTag) (context : UnitContext),
    rule.checkMethod context after = rule.checkMethod context before
  /-- where a tag is inserted, and in which layout -/
  insertion : ∀ context : UnitContext,
    RequiredTag.insertionPoint context after = RequiredTag.insertionPoint context before
  /-- the name an inserted tag is given -/
  tagName : ∀ rule : RequiredTag,
    rule.freshParameterName after.userParameters = rule.freshParameterName before.userParameters
  /-- the calculation among the arguments of a memoizing call -/
  calculation : ∀ (call : Call) (owner : Declaration),
    NonVoidMemoization.calculation? call ⟨owner, after⟩ =
      NonVoidMemoization.calculation? call ⟨owner, before⟩
  /-- which internal types are injected -/
  injection : ∀ (rule : InternalApiBoundary) (context : UnitContext),
    rule.checkMember context after = rule.checkMember context before

theorem takesAlike_of_suspended {before after : Member} (h : before.Suspended after) :
    TakesAlike before after := by
  -- none of the three rules asks about parameters that nobody wrote
  have halike : before.Alike [] after := h.alike (List.forall_mem_nil _)
  exact
    { tags := fun rule context => rule.checkMethod_eq_of_alike (.refl context) halike
      insertion := fun context => RequiredTag.insertionPoint_eq_of_alike (.refl context) halike
      tagName := fun rule => by rw [halike.userParameters]
      calculation := fun call _ => NonVoidMemoization.calculation?_eq_of_alike halike call
      injection := fun rule context => rule.checkMember_eq_of_alike (.refl context) halike }

/-- **The continuation is invisible**: some members of units and library are made suspending, and
the result of a pass is the same, unless the names of a rule lead to the continuation. In particular
the rules about tags, memoization and injection take the same from a member that is made
suspending. -/
theorem analyze_eq_of_suspended (engine : Engine Builtin) {units units' : List CompilationUnit}
    {library library' : List Declaration}
    (hunits : units.Forall₂ CompilationUnit.Suspended units')
    (hlibrary : library.Forall₂ Declaration.Suspended library')
    (hrules : ∀ rule ∈ engine.rules,
      rule.OverlooksContinuation ((SymbolTable.ofUnits units).insertAll library).oracle) :
    engine.analyze ((SymbolTable.ofUnits units').insertAll library').oracle units' =
      engine.analyze ((SymbolTable.ofUnits units).insertAll library).oracle units ∧
    ∀ before after : Member, before.Suspended after → TakesAlike before after := by
  refine ⟨?_, fun _ _ => takesAlike_of_suspended⟩
  have hasked : ∀ p ∈ engine.questions ((SymbolTable.ofUnits units).insertAll library).oracle,
      p Member.continuation = false := by
    intro p hp
    obtain ⟨rule, hrule, hp⟩ := List.mem_flatMap.1 hp
    exact (hrules rule hrule).questions p hp
  have hunits' := hunits.imp fun _ _ hunit => hunit.alike hasked
  have hlibrary' := hlibrary.imp fun _ _ hdeclaration => hdeclaration.alike hasked
  exact analyze_eq_of_alike (SymbolTable.alike_oracle hunits' hlibrary') hunits'

/-- A remote operation that is made suspending, and a call of a memoizing function of the library
that is made suspending: each has its finding, and the result is the same. -/
theorem analyze_suspended_operation_and_function :
    let list : Range := ⟨⟨1, 10, 9⟩, ⟨1, 12, 11⟩⟩
    let fetch : Member :=
      { (Member.method "fetch").annotate { qualifiedName := "retrofit2.http.GET" } with
        parameterList := some list }
    let call : Call :=
      { name := "remember"
        target := some { owner := "me.jansv.runtime.RememberKt", name := "remember" }
        arguments := [{ value := .lambda [] none none, parameter := some 0 }]
        staticType := some (.resolved "kotlin.Unit") }
    let unit (fetch : Member) : CompilationUnit :=
      { path := ⟨"Api.kt"⟩
        declarations := [(Declaration.ofName "Api" .interface).addMember fetch,
          (Declaration.ofName "ApiKt" .facade).addMember
            ((Member.method "show").addStatement (.call call))] }
    let remember := (Member.method "remember").addParameter
      { name := "calculation", typeRef := .resolved "kotlin.Function0" }
    let library (remember : Member) : List Declaration :=
      [(Declaration.ofName "me.jansv.runtime.RememberKt" .facade).addMember remember,
        Declaration.ofName "kotlin.coroutines.Continuation" .interface]
    let engine := build Preset.allRules [] [] {}
    let oracle (fetch remember : Member) : Oracle :=
      ((SymbolTable.ofUnits [unit fetch]).insertAll (library remember)).oracle
    (engine.found (oracle fetch remember) [unit fetch]).map (·.code) = ["PL003", "PL006"] ∧
      engine.analyze (oracle fetch.suspending remember.suspending) [unit fetch.suspending] =
        engine.analyze (oracle fetch remember) [unit fetch] := by
  intro list fetch call unit remember library engine oracle
  have hunits : [unit fetch].Forall₂ CompilationUnit.Suspended [unit fetch.suspending] :=
    .cons ⟨_, .cons ⟨_, .cons (.inr rfl) .nil, rfl⟩
      (.cons ⟨_, .cons (.inl rfl) .nil, rfl⟩ .nil), rfl⟩ .nil
  have hlibrary : (library remember).Forall₂ Declaration.Suspended (library remember.suspending) :=
    .cons ⟨_, .cons (.inr rfl) .nil, rfl⟩ (.cons ⟨_, .nil, rfl⟩ .nil)
  let table := (SymbolTable.ofUnits [unit fetch]).insertAll (library remember)
  -- the continuation is declared without supertypes
  have hcontinuation : ∀ name, "kotlin.coroutines.Continuation" ≠ name →
      table.oracle.isSubtypeOf Member.continuation.typeRef name = false := by
    intro name hne
    rw [Bool.eq_false_iff, ne_eq, Oracle.isSubtypeOf_iff table.faithful_oracle]
    rintro ⟨target, htarget, hreach⟩
    obtain rfl := Option.some.inj htarget
    rcases hreach.cases_head with heq | ⟨next, ⟨found, hfound, entry, hentry, -⟩, -⟩
    · exact hne heq
    · obtain rfl : Declaration.ofName "kotlin.coroutines.Continuation" .interface = found :=
        Option.some.inj hfound
      cases hentry
  refine ⟨by decide +kernel, (analyze_eq_of_suspended engine hunits hlibrary ?_).1⟩
  have hrules : engine.rules = Preset.allRules := rfl
  simp only [hrules, Preset.allRules, Preset.recommendedRules, List.cons_append, List.nil_append,
    List.forall_mem_cons, Builtin.OverlooksContinuation, true_and]
  exact ⟨hcontinuation _ (by decide), by decide,
    ⟨hcontinuation _ (by decide), hcontinuation _ (by decide), by decide⟩, by simp⟩

end Engine

end DeclLint
