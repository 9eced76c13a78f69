import DeclLint.Proofs.Code.Walk
import DeclLint.Rules.MandatoryCall
import DeclLint.Symbol.Table

/-!
# What speaks against skipping preconditions

A subclass of the base class is reported when one of its constructor calls passes preconditions
whose static type is on record and is not the sentinel, and it never calls the mandatory method
(`MandatoryCall.checkDeclaration_eq_nil_iff`).

A static type that is not on record says nothing, but one on record that could not be resolved
speaks against skipping just as any type other than the sentinel does. This alone decides about
declarations that pass nothing but the sentinel and types that are not known
(`MandatoryCall.check_eq_nil_iff_of_sentinel_or_unknown`).
-/

namespace DeclLint

namespace MandatoryCall

variable {rule : MandatoryCall} {context : UnitContext}

/-- A call goes to a constructor of the base class and passes `argument` as its preconditions. -/
def Passes (rule : MandatoryCall) (context : UnitContext) (call : Call) (argument : Argument) :
    Prop :=
  ∃ target, context.oracle.resolveCall call = some target ∧
    rule.isBaseConstructor target = true ∧
    rule.preconditionArgument? context call target = some argument

/-- A call speaks against skipping by the static type of what it passes: that type is on record, and
it is not the sentinel. A type that could not be resolved is not the sentinel either. -/
theorem disproof?_eq_some_iff {call : Call} {disproof : Disproof} :
    rule.disproof? context call = some disproof ↔
      disproof.call = call ∧ ∃ argument, Passes rule context call argument ∧
        argument.value.staticType = some disproof.staticType ∧
        disproof.staticType.target ≠ some rule.sentinel := by
  constructor
  · intro h
    obtain ⟨target, htarget, h⟩ := Option.bind_eq_some_iff.1 h
    split at h
    · cases h
    · rename_i hbase
      obtain ⟨argument, hargument, h⟩ := Option.bind_eq_some_iff.1 h
      obtain ⟨staticType, htype, h⟩ := Option.bind_eq_some_iff.1 h
      split at h
      · cases h
      · rename_i hsentinel
        obtain rfl := Option.some.inj h
        have hpasses : Passes rule context call argument :=
          ⟨target, htarget, by simpa using hbase, hargument⟩
        exact ⟨rfl, argument, hpasses, htype, fun heq => hsentinel (beq_iff_eq.2 heq)⟩
  · rintro ⟨rfl, argument, ⟨target, htarget, hbase, hargument⟩, htype, hsentinel⟩
    have hnamed : disproof.staticType.isNamed rule.sentinel = false :=
      beq_eq_false_iff_ne.2 hsentinel
    simp [disproof?, htarget, hbase, hargument, htype, hnamed]

/-- Some constructor call of a declaration passes preconditions with a static type on record that
satisfies `p`. -/
def PassesType (rule : MandatoryCall) (context : UnitContext) (declaration : Declaration)
    (p : TypeRef → Prop) : Prop :=
  ∃ call ∈ constructorCalls declaration, ∃ argument, Passes rule context call argument ∧
    ∃ type, argument.value.staticType = some type ∧ p type

theorem disproofs_eq_nil_iff {declaration : Declaration} :
    (constructorCalls declaration).filterMap (rule.disproof? context) = [] ↔
      ¬ PassesType rule context declaration (·.target ≠ some rule.sentinel) := by
  rw [List.filterMap_eq_nil_iff]
  constructor
  · rintro hnone ⟨call, hcall, argument, hpasses, type, htype, hsentinel⟩
    have hsome : rule.disproof? context call = some ⟨call, type⟩ :=
      disproof?_eq_some_iff.2 ⟨rfl, argument, hpasses, htype, hsentinel⟩
    rw [hnone call hcall] at hsome
    cases hsome
  · intro hother call hcall
    rcases hdisproof : rule.disproof? context call with _ | disproof
    · rfl
    · obtain ⟨-, argument, hpasses, htype, hsentinel⟩ := disproof?_eq_some_iff.1 hdisproof
      exact absurd ⟨call, hcall, argument, hpasses, _, htype, hsentinel⟩ hother

/-- The search for the mandatory method looks at every call of a declaration, however deep it
stands. -/
theorem callsMandatoryMethod_iff {declaration : Declaration} :
    rule.callsMandatoryMethod context declaration = true ↔
      ∃ call ∈ declaration.calls, rule.isMandatoryCall context call = true := by
  rw [callsMandatoryMethod, Declaration.walkCalls_eq_each, Walk.each_search, ← List.find?_isSome]
  rcases declaration.calls.find? (rule.isMandatoryCall context) with _ | call
  · decide
  · exact iff_of_true rfl rfl

/-- **When a declaration is not reported**: the rule is not about it, no call speaks against
skipping, or some call is the mandatory one. -/
theorem checkDeclaration_eq_nil_iff {declaration : Declaration} :
    rule.checkDeclaration context declaration = [] ↔
      ¬ (rule.applies context declaration = true ∧
        PassesType rule context declaration (·.target ≠ some rule.sentinel) ∧
        ¬ ∃ call ∈ declaration.calls, rule.isMandatoryCall context call = true) := by
  rw [← callsMandatoryMethod_iff, checkDeclaration]
  rcases happlies : rule.applies context declaration with _ | _
  · simp
  · rcases hdisproofs : (constructorCalls declaration).filterMap (rule.disproof? context)
      with _ | ⟨disproof, disproofs⟩
    · have hother := disproofs_eq_nil_iff.1 hdisproofs
      simp [hother]
    · have hother : PassesType rule context declaration (·.target ≠ some rule.sentinel) :=
        Classical.not_not.1 (mt disproofs_eq_nil_iff.2 (by simp [hdisproofs]))
      rcases hcalls : rule.callsMandatoryMethod context declaration with _ | _ <;> simp [hother]

/-- A static type is not on record, could not be resolved, or is the sentinel. -/
def SentinelOrUnknown (rule : MandatoryCall) (staticType : Option TypeRef) : Prop :=
  staticType = none ∨ (∃ type, staticType = some type ∧ type.target = none) ∨
    ∃ type, staticType = some type ∧ type.target = some rule.sentinel

theorem SentinelOrUnknown.target_eq_none {type : TypeRef}
    (h : SentinelOrUnknown rule (some type)) (hsentinel : type.target ≠ some rule.sentinel) :
    type.target = none := by
  rcases h with hnone | ⟨_, heq, htarget⟩ | ⟨_, heq, htarget⟩
  · cases hnone
  · cases heq
    exact htarget
  · cases heq
    exact absurd htarget hsentinel

/-- **Declarations that pass nothing but the sentinel and types that are not known.** Such a
declaration is reported exactly if the rule is about it, one of the types that are not known is on
record, and it never calls the mandatory method; in particular it is not reported if all types on
record are known. -/
theorem check_eq_nil_iff_of_sentinel_or_unknown (rule : MandatoryCall) (context : UnitContext)
    (declaration : Declaration)
    (hunknown : ∀ call ∈ constructorCalls declaration, ∀ argument,
      Passes rule context call argument → SentinelOrUnknown rule argument.value.staticType) :
    LintRule.check rule context (.declaration declaration) = [] ↔
      ¬ (rule.applies context declaration = true ∧
        PassesType rule context declaration (·.target = none) ∧
        ∀ call ∈ declaration.calls, rule.isMandatoryCall context call = false) := by
  have hother : PassesType rule context declaration (·.target ≠ some rule.sentinel) ↔
      PassesType rule context declaration (·.target = none) := by
    constructor
    · rintro ⟨call, hcall, argument, hpasses, type, htype, hsentinel⟩
      have hsays := hunknown call hcall argument hpasses
      rw [htype] at hsays
      exact ⟨call, hcall, argument, hpasses, type, htype, hsays.target_eq_none hsentinel⟩
    · rintro ⟨call, hcall, argument, hpasses, type, htype, htarget⟩
      exact ⟨call, hcall, argument, hpasses, type, htype, by simp [htarget]⟩
  change rule.checkDeclaration context declaration = [] ↔ _
  rw [checkDeclaration_eq_nil_iff, hother]
  simp

/-- A class whose constructor calls pass the sentinel, a value without a static type and a value
whose static type is on record but could not be resolved: it is reported. -/
theorem check_unresolved_type_ne_nil :
    let rule : MandatoryCall :=
      { base := "Base", preconditions := "Pre", sentinel := "Skip", method := "handle" }
    let takesPre := Member.constructor.addParameter { name := "pre", typeRef := .resolved "Pre" }
    let base := (Declaration.ofName "Base" .classType).addMember takesPre
    let context : UnitContext := ⟨{ path := ⟨"Home.kt"⟩ }, (SymbolTable.empty.insert base).oracle⟩
    let passing (type : Option TypeRef) : Call :=
      { name := "Base"
        target := some (.constructor "Base")
        arguments := [{ value := .reference "pre" none type none, parameter := some 0 }] }
    let home : Declaration :=
      { Declaration.ofName "Home" .classType with
        supertypes :=
          [{ typeRef := .resolved "Base", call := some (passing (some (.resolved "Skip"))) }]
        members := [
          { Member.constructor with delegation := some (passing none) },
          { Member.constructor with delegation := some (passing (some (.unresolved "P"))) }] }
    (∀ call ∈ constructorCalls home, ∀ argument, Passes rule context call argument →
      SentinelOrUnknown rule argument.value.staticType) ∧
      LintRule.check rule context (.declaration home) ≠ [] := by
  intro rule takesPre base context passing home
  have hargument : ∀ type argument, Passes rule context (passing type) argument →
      argument.value.staticType = type := by
    rintro type argument ⟨target, htarget, -, hargument⟩
    have hresolve : context.oracle.resolveCall (passing type) = some ⟨base, takesPre⟩ := rfl
    obtain rfl := Option.some.inj (hresolve.symm.trans htarget)
    obtain rfl := List.mem_singleton.1 (List.mem_of_find?_eq_some hargument)
    rfl
  have hunknown : ∀ call ∈ constructorCalls home, ∀ argument, Passes rule context call argument →
      SentinelOrUnknown rule argument.value.staticType := by
    have hcalls : constructorCalls home =
        [passing (some (.resolved "Skip")), passing none, passing (some (.unresolved "P"))] := rfl
    rw [hcalls]
    intro call hcall argument hpasses
    simp only [List.mem_cons, List.not_mem_nil, or_false] at hcall
    rcases hcall with rfl | rfl | rfl <;> rw [hargument _ _ hpasses]
    · exact .inr (.inr ⟨_, rfl, rfl⟩)
    · exact .inl rfl
    · exact .inr (.inl ⟨_, rfl, rfl⟩)
  refine ⟨hunknown, fun hnil => ?_⟩
  refine (check_eq_nil_iff_of_sentinel_or_unknown rule context home hunknown).1 hnil ⟨?_, ?_, ?_⟩
  · have hbelow : context.oracle.declarationIsSubtypeOf home rule.base = true := by
      rw [Oracle.declarationIsSubtypeOf, Oracle.search]
      rfl
    rw [applies, hbelow]
    rfl
  · have hpasses : Passes rule context (passing (some (.unresolved "P"))) _ :=
      ⟨⟨base, takesPre⟩, rfl, rfl, rfl⟩
    exact ⟨_, .tail _ (.tail _ (.head _)), _, hpasses, .unresolved "P", rfl, rfl⟩
  · have hnames : ∀ name ∈ home.calls.map (·.name), (name == rule.method) = false := by decide
    intro call hcall
    rw [isMandatoryCall, hnames call.name (List.mem_map_of_mem hcall), Bool.false_and]

end MandatoryCall

end DeclLint
