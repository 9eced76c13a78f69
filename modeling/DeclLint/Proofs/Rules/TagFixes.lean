import DeclLint.Proofs.Rules.Signature
import DeclLint.Proofs.Symbol.Reachability

/-!
# Mended tags stay mended

The rule on trace tags reports a missing tag (`RequiredTag.exists_missing_iff`) or tags of the wrong
type (`RequiredTag.exists_wrong_iff`), but never both for one method. Doing what a finding asks for
silences the rule:

* a tag of the base type that is added to the parameters is usable, and the other parameters, none
  of which was, are not to blame for their types (`RequiredTag.checkMethod_addParameter`);
* of the tags below the base type none is left once they are given the base type, and each of them
  still is a usable tag (`RequiredTag.checkMethod_retype`).

Both changes are made to the parameters that were written. A continuation stays where it is.
-/

namespace DeclLint

namespace Member

variable {member : Member}

/-- **A new parameter comes after those that were written**, provided that a member with a
continuation has it among its parameters. -/
theorem userParameters_addParameter
    (h : member.syntheticContinuation = true → member.parameters ≠ []) (added : Parameter) :
    (member.addParameter added).userParameters = member.userParameters ++ [added] := by
  by_cases hsynthetic : member.syntheticContinuation = true
  · -- the new parameter goes before the last one, which is the continuation
    have hne := h hsynthetic
    have hlast : member.parameters.getLast? = some (member.parameters.getLast hne) :=
      List.getLast?_eq_some_getLast hne
    rw [addParameter, if_pos (by simp [hsynthetic, hne]), hlast]
    simp only [userParameters, if_pos hsynthetic, Option.toList_some]
    rw [List.dropLast_append_of_ne_nil (List.cons_ne_nil _ _)]
    rfl
  · rw [addParameter, if_neg (by simp [hsynthetic])]
    simp only [userParameters, if_neg hsynthetic]

/-- Gives new types to the written parameters that are `chosen`. -/
def retype (member : Member) (chosen : Parameter → Bool) (type : Parameter → TypeRef) : Member :=
  { member with
    parameters :=
      (member.userParameters.map fun parameter =>
        if chosen parameter then { parameter with typeRef := type parameter } else parameter) ++
      member.parameters.drop member.userParameters.length }

/-- Types are changed in place: the written parameters stay in number and order. -/
theorem userParameters_retype (chosen : Parameter → Bool) (type : Parameter → TypeRef) :
    (member.retype chosen type).userParameters = member.userParameters.map fun parameter =>
      if chosen parameter then { parameter with typeRef := type parameter } else parameter := by
  by_cases hsynthetic : member.syntheticContinuation = true
  · simp only [userParameters, retype, if_pos hsynthetic]
    rcases List.eq_nil_or_concat member.parameters with hnil | ⟨written, continuation, hconcat⟩
    · rw [hnil]
      rfl
    · rw [List.concat_eq_append] at hconcat
      rw [hconcat, List.dropLast_concat, List.drop_left, List.dropLast_concat]
  · simp only [userParameters, retype, if_neg hsynthetic, List.drop_length, List.append_nil]

end Member

namespace RequiredTag

variable {rule : RequiredTag} {context : UnitContext} {member : Member} {parameter : Parameter}

/-! ### Tags -/

/-- A tag of a proper subtype of the base type. -/
structure IsStrictTag (rule : RequiredTag) (oracle : Oracle) (parameter : Parameter) : Prop where
  /-- the parameter carries the tag annotation -/
  tagged : Carries parameter.annotations rule.tagMarker
  /-- its type is below the base type -/
  below : oracle.isSubtypeOf parameter.typeRef rule.tagBase = true
  /-- its type is not the base type -/
  strict : parameter.typeRef.target ≠ some rule.tagBase

/-- A usable tag carries the marker and has a type below the base type, or that type itself. -/
theorem isUsableTag_iff :
    rule.isUsableTag context parameter = true ↔
      Carries parameter.annotations rule.tagMarker ∧
        context.oracle.isSubtypeOf parameter.typeRef rule.tagBase = true := by
  rw [isUsableTag, isTag, Bool.and_eq_true, findAnnotation?_isSome_iff]

/-- A wrong tag is a usable one of a proper subtype, where it should be of the base type. -/
theorem isWrongTag_iff :
    rule.isWrongTag context parameter = true ↔ rule.IsStrictTag context.oracle parameter := by
  rw [isWrongTag, Bool.and_eq_true, isUsableTag_iff, TypeRef.isNamed, Bool.not_eq_true',
    beq_eq_false_iff_ne]
  constructor
  · rintro ⟨⟨htagged, hbelow⟩, hstrict⟩
    exact ⟨htagged, hbelow, hstrict⟩
  · rintro ⟨htagged, hbelow, hstrict⟩
    exact ⟨⟨htagged, hbelow⟩, hstrict⟩

instance (rule : RequiredTag) (oracle : Oracle) : DecidablePred (rule.IsStrictTag oracle) :=
  fun parameter =>
    decidable_of_iff (rule.isWrongTag ⟨default, oracle⟩ parameter = true) isWrongTag_iff

/-- **A tag of the base type is usable**, whatever the oracle knows about that type. -/
theorem isUsableTag_of_target (htagged : Carries parameter.annotations rule.tagMarker)
    (htype : parameter.typeRef.target = some rule.tagBase) :
    rule.isUsableTag context parameter = true := by
  have hnamed : parameter.typeRef.isNamed rule.tagBase = true := beq_iff_eq.2 htype
  refine isUsableTag_iff.2 ⟨htagged, ?_⟩
  rw [Oracle.isSubtypeOf, hnamed, Bool.true_or]

theorem IsStrictTag.isUsableTag (h : rule.IsStrictTag context.oracle parameter) :
    rule.isUsableTag context parameter = true :=
  isUsableTag_iff.2 ⟨h.tagged, h.below⟩

/-! ### What the rule reports -/

/-- The rule is silent about methods that are no remote operations. -/
theorem checkMethod_of_not_remote (hremote : ¬ rule.isRemoteOperation member = true) :
    rule.checkMethod context member = [] := by
  rw [checkMethod, if_pos (by simpa using hremote)]

theorem isRemoteOperation_of_mem {violation : Violation}
    (h : violation ∈ rule.checkMethod context member) : rule.isRemoteOperation member = true := by
  by_contra hremote
  rw [checkMethod_of_not_remote hremote] at h
  cases h

/-- Without a usable tag, one is missing. Of other tags nothing is said then, not even of those with
another type. -/
theorem checkMethod_of_not_usable (hremote : rule.isRemoteOperation member = true)
    (hnone : ∀ parameter ∈ member.userParameters, ¬ rule.isUsableTag context parameter = true) :
    rule.checkMethod context member = [rule.missingTag context member] := by
  have hany : ¬ member.userParameters.any (rule.isUsableTag context) = true := by
    rw [List.any_eq_true]
    rintro ⟨parameter, hparameter, husable⟩
    exact hnone parameter hparameter husable
  rw [checkMethod, if_neg (by simpa using hremote), if_neg hany]

/-- With a usable tag, the tags of a proper subtype are wrong, one finding for each. Nothing is
missing then, even if all tags are wrong. -/
theorem checkMethod_of_usable (hremote : rule.isRemoteOperation member = true)
    (husable : ∃ parameter ∈ member.userParameters, rule.isUsableTag context parameter = true) :
    rule.checkMethod context member =
      (member.userParameters.filter (rule.IsStrictTag context.oracle ·)).map
        (rule.wrongTag context) := by
  have hwrong : ∀ parameter ∈ member.userParameters, rule.isWrongTag context parameter =
      decide (rule.IsStrictTag context.oracle parameter) := by
    intro parameter _
    rw [Bool.eq_iff_iff, isWrongTag_iff, decide_eq_true_iff]
  rw [checkMethod, if_neg (by simpa using hremote), if_pos (List.any_eq_true.2 husable),
    List.filter_congr hwrong]

/-- **The rule is silent** about a remote operation that has a usable tag and no tag of a proper
subtype. -/
theorem checkMethod_eq_nil
    (husable : ∃ parameter ∈ member.userParameters, rule.isUsableTag context parameter = true)
    (hstrict : ∀ parameter ∈ member.userParameters, ¬ rule.IsStrictTag context.oracle parameter) :
    rule.checkMethod context member = [] := by
  by_cases hremote : rule.isRemoteOperation member = true
  · have hnone : member.userParameters.filter (rule.IsStrictTag context.oracle ·) = [] := by
      simpa using hstrict
    rw [checkMethod_of_usable hremote husable, hnone, List.map_nil]
  · exact checkMethod_of_not_remote hremote

/-- **A tag is missing** from a remote operation none of whose parameters is a usable tag. -/
theorem exists_missing_iff :
    (∃ violation ∈ rule.checkMethod context member, violation.code = code) ↔
      rule.isRemoteOperation member = true ∧
        ∀ parameter ∈ member.userParameters, ¬ rule.isUsableTag context parameter = true := by
  constructor
  · rintro ⟨violation, hviolation, hcode⟩
    have hremote := isRemoteOperation_of_mem hviolation
    refine ⟨hremote, fun parameter hparameter husable => ?_⟩
    rw [checkMethod_of_usable hremote ⟨parameter, hparameter, husable⟩] at hviolation
    obtain ⟨wrong, -, rfl⟩ := List.mem_map.1 hviolation
    rw [code_wrongTag] at hcode
    exact absurd hcode (by decide)
  · rintro ⟨hremote, hnone⟩
    rw [checkMethod_of_not_usable hremote hnone]
    exact ⟨_, List.mem_singleton_self _, code_missingTag member⟩

/-- **A tag is of the wrong type** in a remote operation that has one of a proper subtype. -/
theorem exists_wrong_iff :
    (∃ violation ∈ rule.checkMethod context member, violation.code = wrongTypeCode) ↔
      rule.isRemoteOperation member = true ∧
        ∃ parameter ∈ member.userParameters, rule.IsStrictTag context.oracle parameter := by
  constructor
  · rintro ⟨violation, hviolation, hcode⟩
    have hremote := isRemoteOperation_of_mem hviolation
    refine ⟨hremote, ?_⟩
    by_cases husable : ∃ parameter ∈ member.userParameters,
        rule.isUsableTag context parameter = true
    · rw [checkMethod_of_usable hremote husable] at hviolation
      obtain ⟨wrong, hwrong, -⟩ := List.mem_map.1 hviolation
      obtain ⟨hmem, hstrict⟩ := List.mem_filter.1 hwrong
      exact ⟨wrong, hmem, of_decide_eq_true hstrict⟩
    · have hnone : ∀ parameter ∈ member.userParameters,
          ¬ rule.isUsableTag context parameter = true :=
        fun parameter hparameter h => husable ⟨parameter, hparameter, h⟩
      rw [checkMethod_of_not_usable hremote hnone, List.mem_singleton] at hviolation
      rw [hviolation, code_missingTag] at hcode
      exact absurd hcode (by decide)
  · rintro ⟨hremote, parameter, hparameter, hstrict⟩
    rw [checkMethod_of_usable hremote ⟨parameter, hparameter, hstrict.isUsableTag⟩]
    refine ⟨rule.wrongTag context parameter, List.mem_map_of_mem ?_, code_wrongTag parameter⟩
    exact List.mem_filter.2 ⟨hparameter, decide_eq_true hstrict⟩

/-! ### Mending -/

/-- **An added tag is enough** where there was no usable one: the other tags are not below the base
type, and so not to blame. -/
theorem checkMethod_addParameter
    (hcontinuation : member.syntheticContinuation = true → member.parameters ≠ [])
    (hnone : ∀ parameter ∈ member.userParameters, ¬ rule.isUsableTag context parameter = true)
    {tag : Parameter} (htagged : Carries tag.annotations rule.tagMarker)
    (htype : tag.typeRef.target = some rule.tagBase) :
    rule.checkMethod context (member.addParameter tag) = [] := by
  have hwritten := Member.userParameters_addParameter hcontinuation tag
  apply checkMethod_eq_nil
  · refine ⟨tag, ?_, isUsableTag_of_target htagged htype⟩
    rw [hwritten]
    exact List.mem_append_right _ (List.mem_singleton_self tag)
  · intro parameter hparameter hstrict
    rw [hwritten, List.mem_append, List.mem_singleton] at hparameter
    rcases hparameter with hold | rfl
    · exact hnone parameter hold hstrict.isUsableTag
    · exact hstrict.strict htype

/-- **Retyped tags are enough** where some were of a proper subtype: they remain tags, and no other
parameter was wrong. -/
theorem checkMethod_retype
    (hwrong : ∃ parameter ∈ member.userParameters, rule.IsStrictTag context.oracle parameter)
    {type : Parameter → TypeRef}
    (htype : ∀ parameter, (type parameter).target = some rule.tagBase) :
    rule.checkMethod context (member.retype (rule.IsStrictTag context.oracle ·) type) = [] := by
  apply checkMethod_eq_nil <;> rw [Member.userParameters_retype]
  · obtain ⟨parameter, hparameter, hstrict⟩ := hwrong
    refine ⟨_, List.mem_map_of_mem hparameter, ?_⟩
    rw [if_pos (decide_eq_true hstrict)]
    exact isUsableTag_of_target hstrict.tagged (htype parameter)
  · intro retyped hretyped hstrict
    obtain ⟨parameter, -, rfl⟩ := List.mem_map.1 hretyped
    split at hstrict
    · exact hstrict.strict (htype parameter)
    · next hother => exact hother (decide_eq_true hstrict)

/-- **Doing what a finding asks for silences the rule.** For any rule settings, oracle and method
whose continuation, if it has one, is among its parameters:

* if a tag is missing, nothing is reported once a tag of the base type is added, whatever its name;
* if tags are of the wrong type, there is one finding for each written parameter that is a tag of a
  proper subtype, and nothing is reported once exactly these are given the base type;
* one method never has both.

The method may stand in another declaration afterwards. -/
theorem check_of_mended_method (rule : RequiredTag) (context : UnitContext)
    (owner owner' : Declaration) (member : Member)
    (hcontinuation : member.syntheticContinuation = true → member.parameters ≠ []) :
    ((∃ violation ∈ LintRule.check rule context (.method owner member), violation.code = "PL003") →
      ∀ tag : Parameter, Carries tag.annotations rule.tagMarker →
        tag.typeRef.target = some rule.tagBase →
        LintRule.check rule context (.method owner' (member.addParameter tag)) = []) ∧
    ((∃ violation ∈ LintRule.check rule context (.method owner member), violation.code = "PL004") →
      LintRule.check rule context (.method owner member) =
          (member.userParameters.filter (rule.IsStrictTag context.oracle ·)).map
            (rule.wrongTag context) ∧
        (∀ parameter, (rule.wrongTag context parameter).code = "PL004") ∧
        ∀ type : Parameter → TypeRef, (∀ parameter, (type parameter).target = some rule.tagBase) →
          LintRule.check rule context
            (.method owner' (member.retype (rule.IsStrictTag context.oracle ·) type)) = []) ∧
    ¬ ((∃ violation ∈ LintRule.check rule context (.method owner member),
        violation.code = "PL003") ∧
      ∃ violation ∈ LintRule.check rule context (.method owner member),
        violation.code = "PL004") := by
  refine ⟨fun hmissing tag htagged htype => ?_, fun hwrong => ?_, ?_⟩
  · obtain ⟨-, hnone⟩ := exists_missing_iff.1 hmissing
    exact checkMethod_addParameter hcontinuation hnone htagged htype
  · obtain ⟨hremote, parameter, hparameter, hstrict⟩ := exists_wrong_iff.1 hwrong
    refine ⟨checkMethod_of_usable hremote ⟨parameter, hparameter, hstrict.isUsableTag⟩,
      code_wrongTag, fun type htype => ?_⟩
    exact checkMethod_retype ⟨parameter, hparameter, hstrict⟩ htype
  · rintro ⟨hmissing, hwrong⟩
    obtain ⟨-, hnone⟩ := exists_missing_iff.1 hmissing
    obtain ⟨-, parameter, hparameter, hstrict⟩ := exists_wrong_iff.1 hwrong
    exact hnone parameter hparameter hstrict.isUsableTag

/-- Two suspending operations, one without a tag and one with a tag of a proper subtype. -/
theorem check_of_mended_suspending_operations :
    let rule : RequiredTag := { remoteOperations := ["GET"], tagMarker := "Tag", tagBase := "Op" }
    let users :=
      (Declaration.ofName "UsersOp" .classType).addSupertype { typeRef := .resolved "Op" }
    let table := SymbolTable.empty.insert users
    let context : UnitContext := { unit := { path := ⟨"Api.kt"⟩ }, oracle := table.oracle }
    let owner := Declaration.ofName "Api" .interface
    let tag (type : String) : Parameter :=
      { name := "tag", typeRef := .resolved type, annotations := [{ qualifiedName := "Tag" }] }
    let untagged := ((Member.method "users").annotate { qualifiedName := "GET" }).suspending
    let tagged := untagged.addParameter (tag "UsersOp")
    (LintRule.check rule context (.method owner untagged)).map (·.code) = ["PL003"] ∧
      LintRule.check rule context (.method owner (untagged.addParameter (tag "Op"))) = [] ∧
      LintRule.check rule context (.method owner tagged) =
        [rule.wrongTag context (tag "UsersOp")] ∧
      LintRule.check rule context (.method owner
        (tagged.retype (rule.IsStrictTag context.oracle ·) fun _ => .resolved "Op")) = [] := by
  intro rule users table context owner tag untagged tagged
  have hmissing := (check_of_mended_method rule context owner owner untagged (by decide)).1
  have hwrong := (check_of_mended_method rule context owner owner tagged (by decide)).2.1
  have hextends : table.oracle.Extends "UsersOp" "Op" :=
    ⟨users, rfl, _, List.mem_singleton_self _, rfl⟩
  have hbelow : table.oracle.isSubtypeOf (tag "UsersOp").typeRef "Op" = true :=
    (Oracle.isSubtypeOf_iff table.faithful_oracle).2 ⟨"UsersOp", rfl, .single hextends⟩
  have hcarries : Carries (tag "UsersOp").annotations rule.tagMarker :=
    ⟨_, List.mem_singleton_self _, rfl⟩
  have hstrict : rule.IsStrictTag context.oracle (tag "UsersOp") := ⟨hcarries, hbelow, by decide⟩
  have hreported : ∃ violation ∈ LintRule.check rule context (.method owner tagged),
      violation.code = "PL004" :=
    exists_wrong_iff.2 ⟨by decide, _, List.mem_singleton_self _, hstrict⟩
  obtain ⟨hcheck, -, hretyped⟩ := hwrong hreported
  have hone : tagged.userParameters.filter (rule.IsStrictTag context.oracle ·) = [tag "UsersOp"] :=
    List.filter_cons_of_pos (decide_eq_true hstrict)
  rw [hone] at hcheck
  exact ⟨rfl, hmissing ⟨_, List.mem_singleton_self _, rfl⟩ (tag "Op") hcarries rfl, hcheck,
    hretyped _ fun _ => rfl⟩

end RequiredTag

end DeclLint
