import DeclLint.Proofs.Code.Search
import DeclLint.Proofs.Rules.Preconditions
import DeclLint.Proofs.Rules.Signature
import DeclLint.Proofs.Symbol.Binding

/-!
# Subclasses without the mandatory call

A class or object below the base class is reported exactly when one of its constructor calls speaks
against skipping (`MandatoryCall.Disproves`) and no call at any place of its code is a call of the
mandatory method (`MandatoryCall.Handles`); both together are `MandatoryCall.Lacks`. There is one
finding, with a label for each constructor call that speaks against skipping
(`MandatoryCall.Labelled`), those of the supertype list first:
`MandatoryCall.check_reports_missing_call`.

A call of the mandatory method may stand anywhere in the code, also in a member that has nothing to
do with construction.
-/

namespace DeclLint

namespace MandatoryCall

variable {rule : MandatoryCall} {context : UnitContext} {declaration : Declaration} {call : Call}
  {type : TypeRef}

/-! ### Calls that speak against skipping, and calls that handle failures -/

/-- The call goes to a constructor of the base class, and the first argument that is bound to a
parameter for preconditions has the given static type on record, which is not the sentinel. -/
def Disproves (rule : MandatoryCall) (oracle : Oracle) (call : Call) (type : TypeRef) : Prop :=
  ∃ target argument, oracle.resolveCall call = some target ∧
    target.member.kind = .constructor ∧ target.owner.qualifiedName = rule.base ∧
    call.BindsFirst target.member
      (fun parameter => oracle.isSubtypeOf parameter.typeRef rule.preconditions = true) argument ∧
    argument.value.staticType = some type ∧ type.target ≠ some rule.sentinel

/-- The call is written by the name of the mandatory method, and goes to a member of that name of
the base class. -/
def Handles (rule : MandatoryCall) (oracle : Oracle) (call : Call) : Prop :=
  call.name = rule.method ∧ ∃ target, oracle.resolveCall call = some target ∧
    target.owner.qualifiedName = rule.base ∧ target.member.name = rule.method

/-- A call passes preconditions when it is known to go to a constructor of the base class, by the
first argument whose parameter is of the type for preconditions. -/
theorem passes_iff {argument : Argument} :
    Passes rule context call argument ↔
      ∃ target, context.oracle.resolveCall call = some target ∧
        target.member.kind = .constructor ∧ target.owner.qualifiedName = rule.base ∧
        call.BindsFirst target.member
          (fun parameter => context.oracle.isSubtypeOf parameter.typeRef rule.preconditions = true)
          argument := by
  have hargument : ∀ target : ResolvedMember,
      rule.preconditionArgument? context call target = some argument ↔ call.BindsFirst target.member
        (fun parameter => context.oracle.isSubtypeOf parameter.typeRef rule.preconditions = true)
        argument := fun target => Call.find?_bound_eq_some_iff
  simp only [Passes, isBaseConstructor, Bool.and_eq_true, beq_iff_eq, hargument, and_assoc]

/-- What the rule takes from a call is what speaks against skipping: preconditions with a static
type that is not the sentinel. -/
theorem disproof?_eq_some_iff_disproves :
    rule.disproof? context call = some ⟨call, type⟩ ↔ rule.Disproves context.oracle call type := by
  rw [disproof?_eq_some_iff]
  simp only [passes_iff, true_and]
  constructor
  · rintro ⟨argument, ⟨target, htarget, hkind, howner, hbinds⟩, htype, hsentinel⟩
    exact ⟨target, argument, htarget, hkind, howner, hbinds, htype, hsentinel⟩
  · rintro ⟨target, argument, htarget, hkind, howner, hbinds, htype, hsentinel⟩
    exact ⟨argument, ⟨target, htarget, hkind, howner, hbinds⟩, htype, hsentinel⟩

/-- The call that the rule asks for is told by the name it is written by and by what it goes to. -/
theorem isMandatoryCall_iff :
    rule.isMandatoryCall context call = true ↔ rule.Handles context.oracle call := by
  rw [isMandatoryCall, Bool.and_eq_true, beq_iff_eq, Option.any_eq_true, Handles]
  simp only [Bool.and_eq_true, beq_iff_eq]

/-! ### Declarations that lack the call -/

/-- The declaration makes the call directly: it stands in the supertype list, or a constructor
delegates to it. -/
def Constructs (declaration : Declaration) (call : Call) : Prop :=
  (∃ entry ∈ declaration.supertypes, entry.call = some call) ∨
    ∃ member ∈ declaration.members, member.kind = .constructor ∧ member.delegation = some call

/-- A class or object below the base class has to call the mandatory method, and does not. -/
structure Lacks (rule : MandatoryCall) (oracle : Oracle) (declaration : Declaration) : Prop where
  /-- it is a class or an object -/
  kind : declaration.kind = .classType ∨ declaration.kind = .object
  /-- it is not the base class -/
  other : declaration.qualifiedName ≠ rule.base
  /-- it is below the base class -/
  below : oracle.declarationIsSubtypeOf declaration rule.base = true
  /-- a constructor call speaks against skipping -/
  disproved : ∃ call type, Constructs declaration call ∧ rule.Disproves oracle call type
  /-- no call at any place is one of the mandatory method -/
  unhandled : ∀ place call, declaration.code.callAt? place = some call → ¬ rule.Handles oracle call

/-- Base constructors are called in the supertype list and in the delegations of constructors. -/
theorem mem_constructorCalls_iff :
    call ∈ constructorCalls declaration ↔ Constructs declaration call := by
  simp only [constructorCalls, Declaration.constructors, Constructs, List.mem_append,
    List.mem_filterMap, List.mem_filter, beq_iff_eq, and_assoc]

/-- The rule is about classes and objects below the base class, but not about the base class
itself. -/
theorem applies_iff :
    rule.applies context declaration = true ↔
      (declaration.kind = .classType ∨ declaration.kind = .object) ∧
        declaration.qualifiedName ≠ rule.base ∧
        context.oracle.declarationIsSubtypeOf declaration rule.base = true := by
  rw [applies]
  simp only [Bool.and_eq_true, Bool.or_eq_true, beq_iff_eq, bne_iff_ne]
  constructor
  · rintro ⟨⟨hother, hkind⟩, hbelow⟩
    exact ⟨hkind, hother, hbelow⟩
  · rintro ⟨hkind, hother, hbelow⟩
    exact ⟨⟨hother, hkind⟩, hbelow⟩

theorem passesType_iff :
    PassesType rule context declaration (·.target ≠ some rule.sentinel) ↔
      ∃ call type, Constructs declaration call ∧ rule.Disproves context.oracle call type := by
  simp only [← mem_constructorCalls_iff, ← disproof?_eq_some_iff_disproves, disproof?_eq_some_iff,
    true_and]
  constructor
  · rintro ⟨call, hcall, argument, hpasses, type, htype, hsentinel⟩
    exact ⟨call, type, hcall, argument, hpasses, htype, hsentinel⟩
  · rintro ⟨call, type, hcall, argument, hpasses, htype, hsentinel⟩
    exact ⟨call, hcall, argument, hpasses, type, htype, hsentinel⟩

/-- **Which declarations are reported**: those that lack the call, in that something speaks against
skipping and no call is the mandatory one. -/
theorem checkDeclaration_eq_nil_iff_not_lacks :
    rule.checkDeclaration context declaration = [] ↔ ¬ rule.Lacks context.oracle declaration := by
  rw [checkDeclaration_eq_nil_iff, applies_iff, passesType_iff, not_iff_not]
  simp only [isMandatoryCall_iff, Declaration.mem_calls_iff]
  constructor
  · rintro ⟨⟨hkind, hother, hbelow⟩, hdisproved, hunhandled⟩
    exact ⟨hkind, hother, hbelow, hdisproved,
      fun place call hplace hhandles => hunhandled ⟨call, ⟨place, hplace⟩, hhandles⟩⟩
  · rintro ⟨hkind, hother, hbelow, hdisproved, hunhandled⟩
    refine ⟨⟨hkind, hother, hbelow⟩, hdisproved, ?_⟩
    rintro ⟨call, ⟨place, hplace⟩, hhandles⟩
    exact hunhandled place call hplace hhandles

/-! ### Labels -/

/-- The label at a call that passes preconditions of the given static type. -/
def label (context : UnitContext) (call : Call) (type : TypeRef) : Label where
  location := context.location [call.range]
  message := "preconditions passed with static type `" ++ type.text ++ "`"

/-- Each call of a list that speaks against skipping has its label, and no other has one; the labels
stand in the order of the calls. -/
inductive Labelled (rule : MandatoryCall) (context : UnitContext) :
    List Call → List Label → Prop where
  | nil : Labelled rule context [] []
  | disproving {call : Call} {type : TypeRef} {calls : List Call} {labels : List Label}
      (hdisproves : rule.Disproves context.oracle call type)
      (hrest : Labelled rule context calls labels) :
      Labelled rule context (call :: calls) (label context call type :: labels)
  | other {call : Call} {calls : List Call} {labels : List Label}
      (hother : ∀ type, ¬ rule.Disproves context.oracle call type)
      (hrest : Labelled rule context calls labels) : Labelled rule context (call :: calls) labels

/-- There is a label for each call that speaks against skipping, in the order of the calls. -/
theorem labelled_disproofs (calls : List Call) :
    Labelled rule context calls
      ((calls.filterMap (rule.disproof? context)).map fun disproof =>
        label context disproof.call disproof.staticType) := by
  induction calls with
  | nil => exact .nil
  | cons call calls ih =>
    rcases hdisproof : rule.disproof? context call with _ | ⟨call', type⟩
    · rw [List.filterMap_cons_none hdisproof]
      refine .other (fun type hdisproves => ?_) ih
      rw [disproof?_eq_some_iff_disproves.2 hdisproves] at hdisproof
      cases hdisproof
    · -- what a call says against skipping names the call itself
      obtain rfl : call' = call := (disproof?_eq_some_iff.1 hdisproof).1
      rw [List.filterMap_cons_some hdisproof]
      exact .disproving (disproof?_eq_some_iff_disproves.1 hdisproof) ih

/-- A declaration has at most one finding, about all that its constructor calls say against
skipping. -/
theorem checkDeclaration_eq_singleton (h : rule.checkDeclaration context declaration ≠ []) :
    rule.checkDeclaration context declaration =
      [rule.missingCall context declaration
        ((constructorCalls declaration).filterMap (rule.disproof? context))] := by
  rw [checkDeclaration] at h ⊢
  -- every branch but the last reports nothing, against `h`
  split
  · simp_all
  · split
    · simp_all
    · split
      · simp_all
      · rfl

/-- **Subclasses without the mandatory call.** A declaration that lacks the call has exactly one
finding, whose labels are those for the calls of the supertype list and behind them those for the
delegations of the constructors; any other declaration has none. Hence a call of the mandatory
method at any place of the code of any member, put there in place of what the member was, leaves
nothing to report. -/
theorem check_reports_missing_call (rule : MandatoryCall) (context : UnitContext)
    (declaration : Declaration) :
    (rule.Lacks context.oracle declaration → ∃ violation inSupertypes inDelegations,
      LintRule.check rule context (.declaration declaration) = [violation] ∧
        violation.code = "PL005" ∧ violation.labels = inSupertypes ++ inDelegations ∧
        Labelled rule context (declaration.supertypes.filterMap (·.call)) inSupertypes ∧
        Labelled rule context
          ((declaration.members.filter (·.kind == .constructor)).filterMap (·.delegation))
          inDelegations) ∧
    (¬ rule.Lacks context.oracle declaration →
      LintRule.check rule context (.declaration declaration) = []) ∧
    ∀ index changed, index < declaration.members.length →
      (∃ code ∈ changed.code, ∃ place call, code.callAt? place = some call ∧
        rule.Handles context.oracle call) →
      LintRule.check rule context
        (.declaration { declaration with members := declaration.members.set index changed }) =
          [] := by
  refine ⟨fun hlacks => ?_, checkDeclaration_eq_nil_iff_not_lacks.2, ?_⟩
  · have hne := mt checkDeclaration_eq_nil_iff_not_lacks.1 (not_not_intro hlacks)
    refine ⟨_, _, _, checkDeclaration_eq_singleton hne, Violation.code_withFix _ _, ?_,
      labelled_disproofs _, labelled_disproofs _⟩
    rw [← List.map_append, ← List.filterMap_append]
    rfl
  · rintro index changed hindex ⟨code, hcode, place, call, hplace, hhandles⟩
    refine checkDeclaration_eq_nil_iff_not_lacks.2 fun hlacks => ?_
    have hcall : call ∈
        { declaration with members := declaration.members.set index changed : Declaration }.calls :=
      Declaration.mem_calls_of_member (List.mem_set hindex changed) hcode hplace
    obtain ⟨place', hplace'⟩ := Declaration.mem_calls_iff.1 hcall
    exact hlacks.unhandled place' call hplace' hhandles

/-- A class whose supertype list passes preconditions, and whose second constructor passes the
sentinel, is reported. It is not once the body of that constructor has a lambda that calls the
mandatory method. -/
theorem check_handler_in_lambda :
    let rule : MandatoryCall :=
      { base := "Base", preconditions := "Pre", sentinel := "Skip", method := "handle" }
    let takesPre := Member.constructor.addParameter { name := "pre", typeRef := .resolved "Pre" }
    let base :=
      ((Declaration.ofName "Base" .classType).addMember takesPre).addMember (.method "handle")
    let context : UnitContext := ⟨{ path := ⟨"Home.kt"⟩ }, (SymbolTable.empty.insert base).oracle⟩
    let passing (type : String) : Call :=
      { name := "Base"
        target := some (.constructor "Base")
        arguments := [
          { value := .reference "pre" none (some (.resolved type)) none, parameter := some 0 }] }
    let second : Member := { Member.constructor with delegation := some (passing "Skip") }
    let home : Declaration :=
      { Declaration.ofName "Home" .classType with
        supertypes := [{ typeRef := .resolved "Base", call := some (passing "Checks") }]
        members := [second] }
    let handle : Call := { name := "handle", target := some ⟨"Base", "handle", 0⟩ }
    let handling : Member := { second with body := some [.lambda [.call handle] none none] }
    (∃ violation, LintRule.check rule context (.declaration home) = [violation]) ∧
      LintRule.check rule context
        (.declaration { home with members := home.members.set 0 handling }) = [] := by
  intro rule takesPre base context passing second home handle handling
  obtain ⟨hreported, -, hsilenced⟩ := check_reports_missing_call rule context home
  constructor
  · have hbelow : context.oracle.declarationIsSubtypeOf home rule.base = true := by
      rw [Oracle.declarationIsSubtypeOf, Oracle.search]
      rfl
    have hdisproves : rule.Disproves context.oracle (passing "Checks") (.resolved "Checks") :=
      disproof?_eq_some_iff_disproves.1 rfl
    have hnames : ∀ name ∈ home.calls.map (·.name), name ≠ rule.method := by decide
    have hlacks : rule.Lacks context.oracle home := {
      kind := .inl rfl
      other := by decide
      below := hbelow
      disproved := ⟨_, _, .inl ⟨_, .head _, rfl⟩, hdisproves⟩
      unhandled := fun place call hplace hhandles =>
        hnames call.name (List.mem_map_of_mem (Declaration.mem_calls_iff.2 ⟨place, hplace⟩))
          hhandles.1 }
    obtain ⟨violation, _, _, hcheck, -⟩ := hreported hlacks
    exact ⟨violation, hcheck⟩
  · have hhandles : rule.Handles context.oracle handle := isMandatoryCall_iff.1 rfl
    have hcode : .lambda [.call handle] none none ∈ handling.code := .tail _ (.head _)
    exact hsilenced 0 handling (by decide) ⟨_, hcode, [.part 0], handle, rfl, hhandles⟩

end MandatoryCall

end DeclLint
