import DeclLint.Proofs.Edit.OneEdit
import DeclLint.Proofs.Engine.Isolation
import DeclLint.Rules.Preset

/-!
# Offered fixes apply

Rules take the offsets of their fixes from the ranges the code model records. Where these lie in the
text and parameter lists begin with their bracket (`CompilationUnit.Anchored`), every fix that is
offered is one edit between two boundaries of the text:

* a tag goes right behind the bracket or behind the last parameter
  (`RequiredTag.isBoundary_insertionPoint`), or takes the place of a parameter's type;
* an `init` block goes behind the brace of the body or behind the last supertype
  (`MandatoryCall.mends_missingCall`);
* the other rules offer no fix.

Such a fix applies, and leaves everything before and behind the edit as it was
(`Fix.OneEdit.apply_eq`). No offset overflows on the way, so a run over such units has a result
(`Engine.run_eq_ok_of_anchored`).
-/

namespace DeclLint

/-! ### Ranges in a text -/

/-- The recorded ranges that fixes go by lie in the text. -/
structure Declaration.Anchored (source : String) (declaration : Declaration) : Prop where
  /-- the opening brace -/
  brace : ∀ body ∈ declaration.body, ∀ range ∈ body.openBrace, range.Within source
  /-- the entries of the supertype list -/
  supertypes : ∀ entry ∈ declaration.supertypes, ∀ range ∈ entry.range, range.Within source
  /-- the parameters -/
  parameters : ∀ member ∈ declaration.members, ∀ parameter ∈ member.parameters,
    ∀ range ∈ parameter.range, range.Within source
  /-- the types of parameters -/
  types : ∀ member ∈ declaration.members, ∀ parameter ∈ member.parameters,
    ∀ range ∈ parameter.typeRef.range, range.Within source
  /-- the parameter lists of methods begin with a bracket -/
  lists : ∀ member ∈ declaration.members, member.kind = .method → ∀ range ∈ member.parameterList,
    Text.slice? source range.start.offset (range.start.offset + 1) = some "("

/-- A unit whose ranges refer to the text, which has no more bytes than an offset can count. -/
structure CompilationUnit.Anchored (source : String) (unit : CompilationUnit) : Prop where
  /-- the length of the text is a machine word -/
  size : source.utf8ByteSize < Text.wordSize
  /-- the ranges of all declarations lie in the text -/
  declarations : ∀ declaration ∈ unit.declarations, declaration.Anchored source

theorem Member.mem_parameters_of_mem_userParameters {member : Member} {parameter : Parameter}
    (h : parameter ∈ member.userParameters) : parameter ∈ member.parameters := by
  rw [userParameters] at h
  split at h
  · exact (List.dropLast_sublist _).subset h
  · exact h

/-! ### What findings offer -/

namespace Violation

/-- The fix a finding offers, if there is one, is one edit of the text. Only the fix for a tag of
the wrong type removes something. -/
def Mends (source : String) (violation : Violation) : Prop :=
  ∀ fix, violation.fix? = some fix → ∃ edit, fix.OneEdit source edit ∧
    (violation.code ≠ RequiredTag.wrongTypeCode → edit.start = edit.stop)

variable {source : String} {violation : Violation}

theorem mends_of_fix?_eq_none (h : violation.fix? = none) : violation.Mends source := by
  intro fix hfix
  rw [h] at hfix
  cases hfix

/-- A finding offers the fix it was given, and no other: the fix mends the text if it is one edit in
it, and an insertion where the code is not the one of a wrong tag. -/
theorem mends_withFix {fix : Option Fix} (hnone : violation.fix? = none)
    (hfix : ∀ given ∈ fix, ∃ edit, given.OneEdit source edit ∧
      (violation.code ≠ RequiredTag.wrongTypeCode → edit.start = edit.stop)) :
    (violation.withFix fix).Mends source := by
  cases fix with
  | none => exact mends_of_fix?_eq_none hnone
  | some fix =>
    intro offered hoffered
    obtain rfl : fix = offered := Option.some.inj hoffered
    exact hfix fix rfl

theorem Mends.withLabels (h : violation.Mends source) (labels : List Label) :
    ({ violation with labels } : Violation).Mends source := h

theorem Mends.withSeverity (h : violation.Mends source) (severity : Severity) :
    ({ violation with severity } : Violation).Mends source := h

end Violation

namespace RequiredTag

variable {rule : RequiredTag} {context : UnitContext} {source : String} {owner : Declaration}
  {member : Member}

/-- **A tag is inserted at the insertion point**: the fix for a missing tag is one insertion there.
Imports are no part of it, as the type is written with its full name. -/
theorem exists_insertion_of_tagFix?_eq_some {fix : Fix}
    (h : rule.tagFix? context member = some fix) :
    ∃ offset shape title text, insertionPoint context member = .ok (some (offset, shape)) ∧
      Fix.insertion title offset text = fix := by
  rw [tagFix?, insertTagFix] at h
  rcases hpoint : insertionPoint context member with _ | _ | ⟨offset, shape⟩ <;> rw [hpoint] at h
  · cases h
  · cases h
  · exact ⟨offset, shape, _, _, rfl, Option.some.inj h⟩

/-- **The place behind the last parameter is where that parameter ends.** No sum of offsets is taken
here, so this place cannot overflow. -/
theorem offset_of_pointBehind_eq_some {list : Range} {parameters : List Parameter}
    {last : Parameter} {offset : Nat} {shape : Layout.ListShape}
    (h : pointBehind context list parameters last = some (offset, shape)) :
    ∃ range, last.range = some range ∧ range.stop.offset = offset := by
  obtain ⟨range, hrange, h⟩ := Option.bind_eq_some_iff.1 h
  refine ⟨range, hrange, ?_⟩
  split at h
  · exact congrArg Prod.fst (Option.some.inj h)
  · obtain ⟨lines, -, h⟩ := Option.bind_eq_some_iff.1 h
    exact congrArg Prod.fst (Option.some.inj h)

/-- **The offset behind a bracket does not overflow**: the bracket lies in the text, whose size is a
machine word. -/
theorem offsetAdd_of_bracket {list : Range} (hsize : source.utf8ByteSize < Text.wordSize)
    (hbracket : Text.slice? source list.start.offset (list.start.offset + 1) = some "(") :
    Text.offsetAdd list.start.offset 1 = .ok (list.start.offset + 1) ∧
      Text.IsBoundary source (list.start.offset + 1) := by
  obtain ⟨-, -, hstop⟩ := Text.slice?_isSome_iff.1 (Option.isSome_of_eq_some hbracket)
  have hle := hstop.le_size
  exact ⟨Text.offsetAdd_of_fits (by omega), hstop⟩

/-- **A tag is inserted at a boundary**: behind the bracket there is one because the bracket is a
single byte, and behind a parameter because its range lies in the text. -/
theorem isBoundary_insertionPoint {offset : Nat} {shape : Layout.ListShape}
    (hsize : source.utf8ByteSize < Text.wordSize) (howner : owner.Anchored source)
    (hmember : member ∈ owner.members) (hkind : member.kind = .method)
    (h : insertionPoint context member = .ok (some (offset, shape))) :
    Text.IsBoundary source offset := by
  rw [insertionPoint] at h
  split at h
  case h_1 => cases h
  case h_2 list hlist hlast =>
    obtain ⟨hadd, hboundary⟩ :=
      offsetAdd_of_bracket hsize (howner.lists member hmember hkind list hlist)
    rw [hadd] at h
    obtain rfl : list.start.offset + 1 = offset :=
      congrArg Prod.fst (Option.some.inj (Except.ok.inj h))
    exact hboundary
  case h_3 list last hlist hlast =>
    obtain ⟨range, hrange, rfl⟩ := offset_of_pointBehind_eq_some (Except.ok.inj h)
    have hmem := Member.mem_parameters_of_mem_userParameters (List.mem_of_getLast? hlast)
    exact (howner.parameters member hmember last hmem range hrange).stop

/-- **Checking a method of a text does not break off.** The only sum that is taken is the one behind
a bracket, which lies in the text. -/
theorem overflows_eq_false (hsize : source.utf8ByteSize < Text.wordSize)
    (howner : owner.Anchored source) (hmember : member ∈ owner.members)
    (hkind : member.kind = .method) : rule.overflows context member = false := by
  have hpoint : ∃ point, insertionPoint context member = .ok point := by
    rw [insertionPoint]
    split
    case h_1 => exact ⟨_, rfl⟩
    case h_2 list hlist hlast =>
      obtain ⟨hadd, -⟩ := offsetAdd_of_bracket hsize (howner.lists member hmember hkind list hlist)
      exact ⟨_, by rw [hadd]; rfl⟩
    case h_3 => exact ⟨_, rfl⟩
  obtain ⟨point, hpoint⟩ := hpoint
  simp [overflows, insertTagFix, hpoint, Except.map, Except.toOption]

theorem mends_missingTag (hsize : source.utf8ByteSize < Text.wordSize)
    (howner : owner.Anchored source) (hmember : member ∈ owner.members)
    (hkind : member.kind = .method) :
    (rule.missingTag context member).Mends source := by
  refine Violation.mends_withFix rfl fun fix hfix => ?_
  obtain ⟨offset, shape, title, text, hpoint, rfl⟩ := exists_insertion_of_tagFix?_eq_some hfix
  have hoffset := isBoundary_insertionPoint hsize howner hmember hkind hpoint
  exact ⟨_, Fix.oneEdit_insertion hoffset _ _, fun _ => rfl⟩

/-- A tag of the wrong type is mended by another type in its place, which is the one edit that
deletes something. -/
theorem mends_wrongTag {parameter : Parameter}
    (hrange : ∀ range ∈ parameter.typeRef.range, range.Within source) :
    (rule.wrongTag context parameter).Mends source := by
  refine Violation.mends_withFix rfl fun fix hfix => ?_
  obtain ⟨range, htype, rfl⟩ := Option.map_eq_some_iff.1 hfix
  exact ⟨_, Fix.oneEdit_replacement (hrange range htype) _ _, fun hcode => absurd rfl hcode⟩

theorem mends_of_mem_checkMethod {violation : Violation}
    (hsize : source.utf8ByteSize < Text.wordSize) (howner : owner.Anchored source)
    (hmember : member ∈ owner.members) (hkind : member.kind = .method)
    (h : violation ∈ rule.checkMethod context member) : violation.Mends source := by
  rw [checkMethod] at h
  split at h
  · cases h
  · split at h
    · obtain ⟨parameter, hparameter, rfl⟩ := List.mem_map.1 h
      have hwritten : parameter ∈ member.userParameters := (List.mem_filter.1 hparameter).1
      have hmem := Member.mem_parameters_of_mem_userParameters hwritten
      exact mends_wrongTag (howner.types member hmember parameter hmem)
    · rw [List.mem_singleton.1 h]
      exact mends_missingTag hsize howner hmember hkind

end RequiredTag

namespace MandatoryCall

variable {rule : MandatoryCall} {context : UnitContext} {source : String}
  {declaration : Declaration}

/-- **The `init` block is inserted at a boundary.** It goes behind the bracket that opens the body
or, where there is no body, behind the supertype list. -/
theorem mends_missingCall (hdeclaration : declaration.Anchored source) (disproofs : List Disproof) :
    (rule.missingCall context declaration disproofs).Mends source := by
  refine (Violation.mends_withFix rfl fun fix hfix => ?_).withLabels _
  rcases hbody : declaration.body with _ | body
  · -- without a body, the supertype list says where one may begin
    simp only [initBlockFix, hbody] at hfix
    obtain ⟨last, hlast, hfix⟩ := Option.bind_eq_some_iff.1 hfix
    obtain ⟨range, hrange, hfix⟩ := Option.bind_eq_some_iff.1 hfix
    obtain rfl := Option.some.inj hfix
    have hentry := hdeclaration.supertypes last (List.mem_of_getLast? hlast) range hrange
    exact ⟨_, Fix.oneEdit_insertion hentry.stop _ _, fun _ => rfl⟩
  · simp only [initBlockFix, hbody] at hfix
    obtain ⟨brace, hbrace, hfix⟩ := Option.bind_eq_some_iff.1 hfix
    obtain rfl := Option.some.inj hfix
    have hwithin := hdeclaration.brace body hbody brace hbrace
    exact ⟨_, Fix.oneEdit_insertion hwithin.stop _ _, fun _ => rfl⟩

theorem mends_of_mem_checkDeclaration {violation : Violation}
    (hdeclaration : declaration.Anchored source)
    (h : violation ∈ rule.checkDeclaration context declaration) : violation.Mends source := by
  rw [checkDeclaration] at h
  split at h
  · cases h
  · split at h
    · cases h
    · split at h
      · cases h
      · rw [List.mem_singleton.1 h]
        exact mends_missingCall hdeclaration _

end MandatoryCall

/-! ### All rules -/

/-- **No rule breaks off at a node of a unit whose ranges lie in its text.** Only the rule about
tags adds to an offset, behind the bracket of a parameter list. -/
theorem Builtin.overflows_eq_false {rule : Builtin} {context : UnitContext} {source : String}
    {unit : CompilationUnit} {node : Node} (hunit : unit.Anchored source)
    (hnode : node ∈ unit.nodes) : rule.overflows context node = false := by
  obtain ⟨declaration, hdeclaration, hnode⟩ := CompilationUnit.mem_nodes.1 hnode
  have hanchored := hunit.declarations declaration hdeclaration
  cases rule with
  | requiredTag rule =>
    rcases hnode with rfl | ⟨member, hmember, hkind, rfl⟩ | ⟨call, -, rfl⟩
    · rfl
    · exact RequiredTag.overflows_eq_false hunit.size hanchored hmember hkind
    · rfl
  | internalApiBoundary | mandatoryCall | nonVoidMemoization | restrictedOperator
    | producingState => rfl

/-- **What a rule offers about a node of the unit** can be applied to the text. -/
theorem Builtin.mends_of_mem_check {rule : Builtin} {context : UnitContext} {source : String}
    {unit : CompilationUnit} {node : Node} {violation : Violation} (hunit : unit.Anchored source)
    (hnode : node ∈ unit.nodes) (h : violation ∈ rule.check context node) :
    violation.Mends source := by
  obtain ⟨declaration, hdeclaration, hnode⟩ := CompilationUnit.mem_nodes.1 hnode
  have hanchored := hunit.declarations declaration hdeclaration
  cases rule with
  | requiredTag rule =>
    rcases hnode with rfl | ⟨member, hmember, hkind, rfl⟩ | ⟨call, -, rfl⟩
    · cases h
    · exact RequiredTag.mends_of_mem_checkMethod hunit.size hanchored hmember hkind h
    · cases h
  | mandatoryCall rule =>
    rcases hnode with rfl | ⟨member, -, -, rfl⟩ | ⟨call, -, rfl⟩
    · exact MandatoryCall.mends_of_mem_checkDeclaration hanchored h
    · cases h
    · cases h
  | internalApiBoundary rule =>
    exact Violation.mends_of_fix?_eq_none (InternalApiBoundary.verbal_of_mem_check h).fix
  | nonVoidMemoization rule =>
    exact Violation.mends_of_fix?_eq_none (NonVoidMemoization.verbal_of_mem_check h).fix
  | restrictedOperator rule =>
    exact Violation.mends_of_fix?_eq_none (RestrictedOperator.verbal_of_mem_check h).fix
  | producingState rule =>
    exact Violation.mends_of_fix?_eq_none (ProducingState.verbal_of_mem_check h).fix

namespace Engine

/-- **A run over units whose ranges lie in their texts has a result**, that of the analysis: no sum
of offsets overflows on the way. -/
theorem run_eq_ok_of_anchored (engine : Engine Builtin) (oracle : Oracle)
    {units : List CompilationUnit} (hunits : ∀ unit ∈ units, ∃ source, unit.Anchored source) :
    engine.run oracle units = .ok (engine.analyze oracle units) := by
  rw [run, if_neg]
  rw [List.any_eq_true]
  rintro ⟨unit, hunit, hnodes⟩
  obtain ⟨source, hanchored⟩ := hunits unit hunit
  obtain ⟨node, hnode, hbreaks⟩ := List.any_eq_true.1 hnodes
  obtain ⟨rule, -, hoverflows⟩ := List.any_eq_true.1 hbreaks
  have hfalse : LintRule.overflows rule ⟨unit, oracle⟩ node = false :=
    Builtin.overflows_eq_false hanchored hnode
  rw [hfalse, Bool.and_false] at hoverflows
  cases hoverflows

/-- **Every fix that is offered applies.** It is a single edit, and it gives the text before the
edit, the replacement and the text behind the edit. A missing tag and a missing call are mended
without deleting anything. -/
theorem apply_offered_fix (engine : Engine Builtin) (oracle : Oracle) {unit : CompilationUnit}
    {source : String} (hunit : unit.Anchored source) {violation : Violation}
    (hviolation : violation ∈ engine.analyzeUnit oracle unit) {fix : Fix}
    (hfix : violation.fix? = some fix) :
    ∃ edit before after, fix.edits = [edit] ∧
      Text.slice? source 0 edit.start = some before ∧
      Text.slice? source edit.stop source.utf8ByteSize = some after ∧
      fix.apply source = .ok (before ++ edit.replacement ++ after) ∧
      (violation.code = "PL003" ∨ violation.code = "PL005" → edit.start = edit.stop) := by
  obtain ⟨node, hnode, rule, made, hmade, severity, rfl⟩ := made_of_mem_analyzeUnit hviolation
  have hmends := (Builtin.mends_of_mem_check hunit hnode hmade).withSeverity severity
  obtain ⟨edit, hedit, hinsertion⟩ := hmends fix hfix
  obtain ⟨before, after, hbefore, hafter, happly⟩ := hedit.apply_eq
  refine ⟨edit, before, after, hedit.edits, hbefore, hafter, happly, fun hcode => hinsertion ?_⟩
  rcases hcode with hcode | hcode <;>
    exact fun hwrong => absurd (hcode.symm.trans hwrong) (by decide)

/-- A tag is missing behind a character of two bytes. -/
theorem apply_fix_behind_two_bytes :
    let source := "é fun f()"
    let fetch : Member :=
      { (Member.method "f").annotate { qualifiedName := "retrofit2.http.GET" } with
        parameterList := some ⟨⟨1, 9, 8⟩, ⟨1, 11, 10⟩⟩ }
    let unit : CompilationUnit :=
      { path := ⟨"Api.kt"⟩
        declarations := [(Declaration.ofName "Api" .interface).addMember fetch]
        source := some source }
    let fix : Fix :=
      ⟨"Insert a `NetworkTraceOp` tag",
        [⟨9, 9, "@retrofit2.http.Tag tag: me.jansv.internallib.NetworkTraceOp"⟩]⟩
    let engine := build Preset.allRules [] [] {}
    unit.Anchored source ∧
      (engine.analyzeUnit SymbolTable.empty.oracle unit).map (·.fix?) = [some fix] ∧
      fix.apply source =
        .ok "é fun f(@retrofit2.http.Tag tag: me.jansv.internallib.NetworkTraceOp)" := by
  intro source fetch unit fix engine
  have hunit : unit.Anchored source := by
    refine ⟨by decide, List.forall_mem_singleton.2 ⟨?_, ?_, ?_, ?_, ?_⟩⟩
    · rintro body ⟨⟩
    · intro entry hentry
      cases hentry
    · refine List.forall_mem_singleton.2 fun parameter hparameter => ?_
      cases hparameter
    · refine List.forall_mem_singleton.2 fun parameter hparameter => ?_
      cases hparameter
    · refine List.forall_mem_singleton.2 fun _ range hrange => ?_
      obtain rfl := Option.some.inj hrange
      decide +kernel
  have hfixes : (engine.analyzeUnit SymbolTable.empty.oracle unit).map (·.fix?) = [some fix] := by
    decide +kernel
  refine ⟨hunit, hfixes, ?_⟩
  obtain ⟨violation, hviolation, hfix⟩ :=
    List.mem_map.1 (hfixes ▸ List.mem_singleton_self (some fix))
  obtain ⟨edit, before, after, hedits, hbefore, hafter, happly, -⟩ :=
    apply_offered_fix engine SymbolTable.empty.oracle hunit hviolation hfix
  obtain rfl := (List.singleton_inj.1 hedits).symm
  obtain rfl : "é fun f(" = before := Option.some.inj (Eq.trans (by decide +kernel) hbefore)
  obtain rfl : ")" = after := Option.some.inj (Eq.trans (by decide +kernel) hafter)
  rw [happly]
  decide +kernel

end Engine

end DeclLint
