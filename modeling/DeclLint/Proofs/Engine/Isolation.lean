import DeclLint.Proofs.Engine.Dispatch
import DeclLint.Proofs.Engine.Order
import DeclLint.Proofs.Rules.Signature
import Mathlib.Data.List.Basic

/-!
# Rules do not interfere

Two engines *agree* on a rule name when they run the same rules of that name, in the same order, and
have the same section for it (`Engine.AgreeOn`). Agreement goes through every stage of a pass:

* building (`AgreeOn.of_build`) — a rule is configured by its own section, and stays under its name;
* dispatch (`AgreeOn.dispatch`) — a finding bears the name of the rule that made it;
* sorting and dropping repeats (`Engine.filter_findings`) — findings that tie have the same code,
  and a code belongs to one rule, so no finding of another rule stands between a finding and its
  repeat.

So the findings under a name are the same for engines that agree on it, whatever else they run.
-/

namespace DeclLint

/-! ### Selecting what comes from some members of a list -/

section Selection

variable {α β : Type} {p : β → Bool} {q : α → Bool}

/-- Where a test on the results is one on what they come from, it may be made before the results
are. -/
theorem filter_flatMap_eq {f : α → List β} (h : ∀ a, ∀ b ∈ f a, p b = q a) (xs : List α) :
    (xs.flatMap f).filter p = (xs.filter q).flatMap f := by
  induction xs with
  | nil => rfl
  | cons a xs ih =>
    rw [List.flatMap_cons, List.filter_append, ih]
    rcases ha : q a with _ | _
    · have hnone : (f a).filter p = [] :=
        List.filter_eq_nil_iff.2 fun b hb => by rw [h a b hb, ha]; exact Bool.false_ne_true
      rw [List.filter_cons_of_neg (by rw [ha]; exact Bool.false_ne_true), hnone, List.nil_append]
    · have hall : (f a).filter p = f a := List.filter_eq_self.2 fun b hb => by rw [h a b hb, ha]
      rw [List.filter_cons_of_pos ha, List.flatMap_cons, hall]

theorem filter_filterMap_eq {f : α → Option β} (h : ∀ a b, f a = some b → p b = q a)
    (xs : List α) : (xs.filterMap f).filter p = (xs.filter q).filterMap f := by
  rw [List.filter_filterMap, List.filterMap_filter]
  congr 1
  funext a
  rcases hfa : f a with _ | b
  · simp
  · simp [Option.filter, h a b hfa]

end Selection

/-! ### Names of rules -/

namespace Builtin

/-- A section sets options of a rule. Its name is none of them. -/
@[simp] theorem name_configure (options : RuleSettings) (rule : Builtin) :
    (configure options rule).rule.name = rule.name := by
  cases rule <;> rfl

theorem name_of_mem_filter {name : String} {rule : Builtin} {rules : List Builtin}
    (h : rule ∈ rules.filter (·.name == name)) : rule.name = name :=
  beq_iff_eq.1 (List.mem_filter.1 h).2

/-- No built-in rule signs with the name of findings about the settings. -/
theorem name_ne_settingsRule (rule : Builtin) : rule.name ≠ settingsRule := by
  cases rule <;> exact of_decide_eq_true rfl

end Builtin

namespace Engine

/-! ### Agreement -/

/-- Two engines run the same rules of a name, with the same section. -/
structure AgreeOn (name : String) (left right : Engine Builtin) : Prop where
  /-- the same rules, in the same order -/
  rules : left.rules.filter (·.name == name) = right.rules.filter (·.name == name)
  /-- the same section -/
  options : left.settings.section? name = right.settings.section? name

/-- A rule that takes its section keeps its name, so that its findings are signed as before. -/
theorem name_of_prepare {settings : Settings} {rule prepared : Builtin}
    (h : prepare settings rule = .ok prepared) : prepared.name = rule.name := by
  rw [prepare] at h
  split at h
  · cases h
    rfl
  · dsimp only at h
    split at h
    · cases h
      exact Builtin.name_configure _ rule
    · cases h

/-- **A rule sees its own section only**: it is prepared alike by settings that agree on it. -/
theorem prepare_congr {left right : Settings} {rule : Builtin}
    (h : left.section? rule.name = right.section? rule.name) :
    prepare left rule = prepare right rule := by
  have hname : LintRule.name rule = rule.name := rfl
  rw [prepare, prepare, hname, h]

/-- The rules of a name that an engine runs are those among the given ones that take their
section. -/
theorem filter_rules_build (rules : List Builtin) (known : List String)
    (errors : List SettingsError) (settings : Settings) (name : String) :
    (build rules known errors settings).rules.filter (·.name == name) =
      (rules.filter (·.name == name)).filterMap fun rule => accepted (prepare settings rule) := by
  rw [build, List.filterMap_map]
  refine filter_filterMap_eq (fun rule prepared h => ?_) rules
  rcases hprepare : prepare settings rule with error | kept
  · simp [hprepare, accepted] at h
  · obtain rfl : kept = prepared := by simpa [hprepare, accepted] using h
    rw [name_of_prepare hprepare]

namespace AgreeOn

variable {name : String} {left right : Engine Builtin}

/-- **Building keeps agreement.** Engines agree on a name when the rules they were built from and
the sections they were built with do, whatever else was given to either. -/
theorem of_build {leftRules rightRules : List Builtin} {leftKnown rightKnown : List String}
    {leftErrors rightErrors : List SettingsError} {leftSettings rightSettings : Settings}
    (hrules : leftRules.filter (·.name == name) = rightRules.filter (·.name == name))
    (hoptions : leftSettings.section? name = rightSettings.section? name) :
    AgreeOn name (build leftRules leftKnown leftErrors leftSettings)
      (build rightRules rightKnown rightErrors rightSettings) where
  rules := by
    rw [filter_rules_build, filter_rules_build, hrules]
    refine List.filterMap_congr fun rule hrule => ?_
    have hname := Builtin.name_of_mem_filter hrule
    rw [prepare_congr (hname ▸ hoptions)]
  options := hoptions

theorem isEnabled (h : AgreeOn name left right) :
    left.settings.isEnabled name = right.settings.isEnabled name := by
  rw [Settings.isEnabled, Settings.isEnabled, h.options]

theorem severity? (h : AgreeOn name left right) :
    left.settings.severity? name = right.settings.severity? name := by
  rw [Settings.severity?, Settings.severity?, h.options]

/-- Agreeing engines run the same rules of the name, in the same order. -/
theorem activeRules (h : AgreeOn name left right) :
    left.activeRules.filter (·.name == name) = right.activeRules.filter (·.name == name) := by
  have henabled : ∀ rule ∈ right.rules.filter (·.name == name),
      left.settings.isEnabled rule.name = right.settings.isEnabled rule.name := by
    intro rule hrule
    obtain rfl := Builtin.name_of_mem_filter hrule
    exact h.isEnabled
  calc left.activeRules.filter (·.name == name)
      = (left.rules.filter (·.name == name)).filter fun rule => left.settings.isEnabled rule.name :=
        List.filter_comm _ _ left.rules
    _ = (right.rules.filter (·.name == name)).filter fun rule =>
          right.settings.isEnabled rule.name := by
        rw [h.rules, List.filter_congr henabled]
    _ = right.activeRules.filter (·.name == name) := List.filter_comm _ _ right.rules

end AgreeOn

/-! ### Dispatch -/

section Dispatch

variable {engine left right : Engine Builtin} {context : UnitContext} {node : Node} {rule : Builtin}
  {violation : Violation} {name : String}

/-- The severity is all that is changed of a finding, if even that. -/
theorem mem_overrideSeverity {violations : List Violation}
    (h : violation ∈ engine.overrideSeverity rule violations) :
    ∃ made ∈ violations, ∃ severity, violation = { made with severity } := by
  rw [overrideSeverity] at h
  split at h
  · obtain ⟨made, hmade, rfl⟩ := List.mem_map.1 h
    exact ⟨made, hmade, _, rfl⟩
  · exact ⟨violation, h, violation.severity, rfl⟩

/-- A finding about a node was made by the rule, but for its severity. -/
theorem made_of_mem_checkNode (h : violation ∈ engine.checkNode context node rule) :
    ∃ made ∈ rule.check context node, ∃ severity, violation = { made with severity } := by
  rw [checkNode] at h
  split at h
  · exact mem_overrideSeverity h
  · cases h

/-- A finding about a node is signed by the rule that made it. Of its severity nothing is said, as
one may be set for the rule. -/
theorem signed_of_mem_checkNode (h : violation ∈ engine.checkNode context node rule) :
    ∃ severity, Signed context rule.name rule.codes severity violation := by
  obtain ⟨made, hmade, severity, rfl⟩ := made_of_mem_checkNode h
  have hsigned := Builtin.signed_of_mem_check hmade
  exact ⟨severity, hsigned.code, hsigned.rule, rfl, hsigned.place⟩

/-- **Where a finding comes from**: a rule made it about a node of the unit, but for its
severity. -/
theorem made_of_mem_analyzeUnit {oracle : Oracle} {unit : CompilationUnit}
    (h : violation ∈ engine.analyzeUnit oracle unit) :
    ∃ node ∈ unit.nodes, ∃ rule : Builtin, ∃ made ∈ rule.check ⟨unit, oracle⟩ node,
      ∃ severity, violation = { made with severity } := by
  rw [analyzeUnit_eq] at h
  obtain ⟨node, hnode, h⟩ := List.mem_flatMap.1 h
  obtain ⟨rule, -, h⟩ := List.mem_flatMap.1 h
  exact ⟨node, hnode, rule, made_of_mem_checkNode h⟩

/-- The code of a finding tells the rule it is signed by. So the test for a name is one on the code,
which the order of findings looks at. -/
theorem ruleOfCode?_of_mem_analyzeUnit {oracle : Oracle} {unit : CompilationUnit}
    (h : violation ∈ engine.analyzeUnit oracle unit) :
    Builtin.ruleOfCode? violation.code = some violation.rule := by
  obtain ⟨node, -, rule, made, hmade, severity, rfl⟩ := made_of_mem_analyzeUnit h
  have hsigned := Builtin.signed_of_mem_check hmade
  exact (Builtin.ruleOfCode?_of_mem_codes hsigned.code).trans (congrArg some hsigned.rule.symm)

/-- At a node, a rule finds the same in engines that agree on its name, with the same severity. -/
theorem AgreeOn.checkNode (h : AgreeOn rule.name left right) :
    left.checkNode context node rule = right.checkNode context node rule := by
  have hseverity : left.settings.severity? (LintRule.name rule) =
      right.settings.severity? (LintRule.name rule) := h.severity?
  rw [Engine.checkNode, Engine.checkNode, overrideSeverity, overrideSeverity, hseverity]

/-- The findings under a name are those of the rules of that name, for rules sign what they find. -/
theorem filter_dispatch (engine : Engine Builtin) (context : UnitContext) (node : Node)
    (name : String) :
    (engine.dispatch context node).filter (·.rule == name) =
      (engine.activeRules.filter (·.name == name)).flatMap (engine.checkNode context node) := by
  refine filter_flatMap_eq (fun rule violation h => ?_) engine.activeRules
  obtain ⟨severity, hsigned⟩ := signed_of_mem_checkNode h
  rw [hsigned.rule]

/-- **Dispatch keeps agreement**: at each node the findings under the name are the same. -/
theorem AgreeOn.dispatch (h : AgreeOn name left right) (context : UnitContext) (node : Node) :
    (left.dispatch context node).filter (·.rule == name) =
      (right.dispatch context node).filter (·.rule == name) := by
  rw [filter_dispatch, filter_dispatch, h.activeRules]
  refine List.flatMap_congr fun rule hrule => ?_
  obtain rfl := Builtin.name_of_mem_filter hrule
  exact h.checkNode

/-- Agreement goes from the nodes to the unit, whose findings are those of its nodes. -/
theorem AgreeOn.analyzeUnit (h : AgreeOn name left right) (oracle : Oracle)
    (unit : CompilationUnit) :
    (left.analyzeUnit oracle unit).filter (·.rule == name) =
      (right.analyzeUnit oracle unit).filter (·.rule == name) := by
  rw [analyzeUnit_eq, analyzeUnit_eq, List.filter_flatMap, List.filter_flatMap]
  exact List.flatMap_congr fun node _ => h.dispatch ⟨unit, oracle⟩ node

end Dispatch

/-! ### The whole pass -/

/-- Whether the code of a finding belongs to a rule whose name passes the test. -/
def hasCodeOf (p : String → Bool) (violation : Violation) : Bool :=
  (Builtin.ruleOfCode? violation.code).any p

/-- Findings that tie have the same code, so a test on the code does not tell them apart. -/
theorem hasCodeOf_congr {p : String → Bool} {a b : Violation} (h : cmp a b = .eq) :
    hasCodeOf p a = hasCodeOf p b := by
  obtain ⟨-, -, -, -, hcode⟩ := cmp_eq_iff.1 h
  rw [hasCodeOf, hasCodeOf, hcode]

/-- **Putting findings in order and dropping repeats, name by name**: it makes no difference whether
the findings under other names are there. -/
theorem filter_findings {found : List Violation}
    (hfound : ∀ violation ∈ found, Builtin.ruleOfCode? violation.code = some violation.rule)
    (p : String → Bool) :
    (dropRepeats (found.mergeSort le)).filter (fun violation => p violation.rule) =
      dropRepeats ((found.filter fun violation => p violation.rule).mergeSort le) := by
  -- ties have the same code but need not have the same name, so the argument is about codes
  have hsame : ∀ violation ∈ found, p violation.rule = hasCodeOf p violation := by
    intro violation h
    rw [hasCodeOf, hfound violation h]
    rfl
  have hsorted : (found.mergeSort le).Pairwise fun a b => le a b :=
    (isStableSort_mergeSort isOrder_le found).ordered
  have hmem : ∀ violation ∈ dropRepeats (found.mergeSort le), violation ∈ found :=
    fun violation h => List.mem_mergeSort.1 ((dropRepeats_sublist _).subset h)
  calc (dropRepeats (found.mergeSort le)).filter (fun violation => p violation.rule)
      = (dropRepeats (found.mergeSort le)).filter (hasCodeOf p) :=
        List.filter_congr fun violation h => hsame violation (hmem violation h)
    _ = dropRepeats ((found.mergeSort le).filter (hasCodeOf p)) :=
        dropRepeats_filter (fun _ _ => hasCodeOf_congr) hsorted
    _ = dropRepeats ((found.filter (hasCodeOf p)).mergeSort le) := by
        rw [mergeSort_filter isOrder_le]
    _ = dropRepeats ((found.filter fun violation => p violation.rule).mergeSort le) := by
        rw [List.filter_congr hsame]

theorem ruleOfCode?_of_mem_flatMap {engine : Engine Builtin} {oracle : Oracle}
    {units : List CompilationUnit} {violation : Violation}
    (h : violation ∈ units.flatMap (engine.analyzeUnit oracle)) :
    Builtin.ruleOfCode? violation.code = some violation.rule := by
  obtain ⟨unit, -, h⟩ := List.mem_flatMap.1 h
  exact ruleOfCode?_of_mem_analyzeUnit h

/-- What is found about the settings is never under the name of a built-in rule. -/
theorem filter_settingsViolations (engine : Engine Builtin) (rule : Builtin) :
    engine.settingsViolations.filter (·.rule == rule.name) = [] := by
  refine List.filter_eq_nil_iff.2 fun violation h => ?_
  obtain ⟨issue, -, rfl⟩ := List.mem_map.1 h
  exact fun hbeq => rule.name_ne_settingsRule (beq_iff_eq.1 hbeq).symm

/-- The findings of a pass under the name of a built-in rule: they may be picked out unit by unit,
and put in order afterwards. -/
theorem filter_violations_analyze (engine : Engine Builtin) (rule : Builtin) (oracle : Oracle)
    (units : List CompilationUnit) :
    (engine.analyze oracle units).violations.filter (·.rule == rule.name) =
      dropRepeats ((units.flatMap fun unit =>
        (engine.analyzeUnit oracle unit).filter (·.rule == rule.name)).mergeSort le) := by
  rw [analyze, List.filter_append, filter_settingsViolations, List.nil_append,
    filter_findings (fun _ => ruleOfCode?_of_mem_flatMap) (· == rule.name), List.filter_flatMap]

end Engine

end DeclLint
