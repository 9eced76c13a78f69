import DeclLint.Proofs.Engine.Isolation
import DeclLint.Rules.Preset
import Mathlib.Data.List.Nodup

/-!
# Switches act on the result

The section of a rule can switch the rule off and override the severity of its findings. Both are
done while rules run, before findings are sorted and repeats dropped. Here it is shown that they may
as well be done to the result of a pass (`Preset.analyze_switch_and_rate`):

* to switch a rule off is to leave out the findings that bear its name
  (`Engine.analyze_switch_off`);
* to set a severity is to give it to these findings (`Engine.analyze_rate`).

Neither has a part in building the engine, which reads the options only (`Engine.build_update`). A
severity is compared when repeats are dropped. So the second needs that all findings under one name
have the same severity when none is set: a preset has one rule of each name
(`Engine.severity_eq_of_rule_eq`).
-/

namespace DeclLint

/-! ### Changing a section -/

/-- Entries under another key have no part in a look-up, so a section may be taken out without a
trace for the others. -/
theorem lookup_filter_ne {β : Type} {key other : String} (h : other ≠ key)
    (entries : List (String × β)) :
    (entries.filter (·.1 != key)).lookup other = entries.lookup other := by
  induction entries with
  | nil => rfl
  | cons entry rest ih =>
    obtain ⟨name, value⟩ := entry
    by_cases hname : name = key
    · have hother : (other == name) = false := beq_eq_false_iff_ne.2 (hname ▸ h)
      rw [List.filter_cons_of_neg (by simp [hname]), List.lookup_cons, hother, ih]
    · rw [List.filter_cons_of_pos (by simp [hname]), List.lookup_cons, List.lookup_cons, ih]

namespace Settings

/-- Changes the section of a rule, which is there afterwards even if it was not before. -/
def update (settings : Settings) (rule : String) (change : RuleSettings → RuleSettings) :
    Settings :=
  { settings with
    rules := (rule, change ((settings.section? rule).getD {})) ::
      settings.rules.filter (·.1 != rule) }

/-- Switches a rule on or off. -/
def switch (settings : Settings) (rule : String) (on : Bool) : Settings :=
  settings.update rule ({ · with enabled := some on })

/-- Sets the severity for the findings of a rule, or leaves it to the rule. -/
def rate (settings : Settings) (rule : String) (severity : Option Severity) : Settings :=
  settings.update rule ({ · with severity })

variable (settings : Settings) {rule other : String}

/-- **The section that is changed** is the one that was there, or an empty one, with the change made
to it. -/
theorem section?_update_self (rule : String) (change : RuleSettings → RuleSettings) :
    (settings.update rule change).section? rule =
      some (change ((settings.section? rule).getD {})) := by
  rw [section?, update, List.lookup_cons_self]

/-- The sections of other rules are left as they are. -/
theorem section?_update_of_ne (h : other ≠ rule) (change : RuleSettings → RuleSettings) :
    (settings.update rule change).section? other = settings.section? other := by
  have hother : (other == rule) = false := beq_eq_false_iff_ne.2 h
  rw [section?, section?, update, List.lookup_cons, hother]
  exact lookup_filter_ne h settings.rules

@[simp] theorem isEnabled_switch_self (rule : String) (on : Bool) :
    (settings.switch rule on).isEnabled rule = on := by
  rw [isEnabled, switch, section?_update_self]
  rfl

/-- A switch is thrown for one rule, and leaves the others on or off as they were. -/
theorem isEnabled_switch_of_ne (h : other ≠ rule) (on : Bool) :
    (settings.switch rule on).isEnabled other = settings.isEnabled other := by
  rw [isEnabled, isEnabled, switch, section?_update_of_ne settings h]

/-- A switch sets no severity. Where a section has to be made for it, that section sets nothing
else. -/
@[simp] theorem severity?_switch (rule other : String) (on : Bool) :
    (settings.switch rule on).severity? other = settings.severity? other := by
  by_cases h : other = rule
  · rw [h, severity?, severity?, switch, section?_update_self]
    cases settings.section? rule <;> rfl
  · rw [severity?, severity?, switch, section?_update_of_ne settings h]

/-- A rule stays switched on or off when a severity is set for it or taken back. -/
@[simp] theorem isEnabled_rate (rule other : String) (severity : Option Severity) :
    (settings.rate rule severity).isEnabled other = settings.isEnabled other := by
  by_cases h : other = rule
  · rw [h, isEnabled, isEnabled, rate, section?_update_self]
    cases settings.section? rule <;> rfl
  · rw [isEnabled, isEnabled, rate, section?_update_of_ne settings h]

@[simp] theorem severity?_rate_self (rule : String) (severity : Option Severity) :
    (settings.rate rule severity).severity? rule = severity := by
  rw [severity?, rate, section?_update_self]
  rfl

theorem severity?_rate_of_ne (h : other ≠ rule) (severity : Option Severity) :
    (settings.rate rule severity).severity? other = settings.severity? other := by
  rw [severity?, severity?, rate, section?_update_of_ne settings h]

end Settings

/-! ### Building reads options only -/

section Options

variable {ρ : Type} {left right : RuleSettings}

/-- **A setting looks at options only**: the switch and the severity of the section are not for
rules to read. -/
theorem Setting.read_congr (h : left.options = right.options) (name : String)
    (setting : Setting ρ) :
    setting.read name left = setting.read name right := by
  cases setting <;>
    simp only [read, RuleSettings.qualifiedName, RuleSettings.qualifiedNames,
      RuleSettings.identifier, RuleSettings.modulePath, RuleSettings.checkedString,
      RuleSettings.string, RuleSettings.option?, h]

/-- A rule is configured from the options of its section and from nothing else. -/
theorem Setting.configure_congr (h : left.options = right.options) (name : String)
    (known : List (Setting ρ)) (rule : ρ) :
    configure name known left rule = configure name known right rule := by
  have hread : ∀ settings : List (Setting ρ), ∀ rule,
      readAll name left settings rule = readAll name right settings rule := by
    intro settings
    induction settings with
    | nil => exact fun _ => rfl
    | cons setting rest ih =>
      intro rule
      simp only [readAll, Setting.read_congr h, ih]
  rw [configure, configure, hread, RuleSettings.rejectUnknown, RuleSettings.rejectUnknown,
    RuleSettings.optionKeys, RuleSettings.optionKeys, h]

/-- The same for the built-in rules, which all go by their lists of settings. -/
theorem Builtin.configure_congr (h : left.options = right.options) (rule : Builtin) :
    configure left rule = configure right rule := by
  cases rule <;> exact congrArg (Configured.map _) (Setting.configure_congr h _ _ _)

end Options

namespace Engine

/-- The engine with other settings. -/
def withSettings (engine : Engine Builtin) (settings : Settings) : Engine Builtin :=
  { engine with settings }

/-- **Building an engine** takes nothing from a changed section but its options. So engines for
settings that differ in switches and severities have the same rules and the same complaints. -/
theorem build_update (rules : List Builtin) (known : List String) (errors : List SettingsError)
    (settings : Settings) (name : String) {change : RuleSettings → RuleSettings}
    (hchange : ∀ options, (change options).options = options.options) :
    build rules known errors (settings.update name change) =
      (build rules known errors (settings.update name id)).withSettings
        (settings.update name change) := by
  have hprepare : ∀ rule : Builtin,
      prepare (settings.update name change) rule = prepare (settings.update name id) rule := by
    intro rule
    by_cases hname : rule.name = name
    · have hsame := Builtin.configure_congr (hchange ((settings.section? name).getD {})) rule
      simp only [prepare, show LintRule.name rule = name from hname, Settings.section?_update_self,
        show LintRule.configure (change _) rule = _ from hsame]
      rfl
    · exact prepare_congr (by rw [Settings.section?_update_of_ne settings hname,
        Settings.section?_update_of_ne settings hname])
  simp only [build, withSettings, funext hprepare]
  rfl

end Engine

/-! ### Switching a rule off -/

/-- The result without the findings under a name. -/
def LintResult.without (name : String) (result : LintResult) : LintResult :=
  { result with violations := result.violations.filter (·.rule != name) }

namespace Engine

variable (engine : Engine Builtin) (settings : Settings)

/-- With a rule switched off, the active rules are the others, in their order. -/
theorem activeRules_switch_off (name : String) :
    (engine.withSettings (settings.switch name false)).activeRules =
      (engine.withSettings (settings.switch name true)).activeRules.filter (·.name != name) := by
  rw [activeRules, activeRules, List.filter_filter]
  refine List.filter_congr fun rule _ => ?_
  change (settings.switch name false).isEnabled rule.name =
    (rule.name != name && (settings.switch name true).isEnabled rule.name)
  by_cases hname : rule.name = name
  · rw [hname, Settings.isEnabled_switch_self, bne_self_eq_false, Bool.false_and]
  · rw [Settings.isEnabled_switch_of_ne settings hname,
      Settings.isEnabled_switch_of_ne settings hname, bne_iff_ne.2 hname, Bool.true_and]

/-- At a node, switching a rule off takes away its findings: all findings under its name are its
own, since a rule signs what it finds. -/
theorem dispatch_switch_off (name : String) (context : UnitContext) (node : Node) :
    (engine.withSettings (settings.switch name false)).dispatch context node =
      ((engine.withSettings (settings.switch name true)).dispatch context node).filter
        (·.rule != name) := by
  have hcheck : (engine.withSettings (settings.switch name false)).checkNode context node =
      (engine.withSettings (settings.switch name true)).checkNode context node := by
    funext rule
    simp only [checkNode, overrideSeverity, withSettings, Settings.severity?_switch]
  rw [dispatch, dispatch, activeRules_switch_off, hcheck]
  refine (filter_flatMap_eq (fun rule violation h => ?_) _).symm
  obtain ⟨severity, hsigned⟩ := signed_of_mem_checkNode h
  rw [hsigned.rule]

/-- **To switch a rule off** is to leave out its findings from the result. It makes no difference
that this happens before the findings are put in order and repeats are dropped. -/
theorem analyze_switch_off (rule : Builtin) (oracle : Oracle) (units : List CompilationUnit) :
    (engine.withSettings (settings.switch rule.name false)).analyze oracle units =
      ((engine.withSettings (settings.switch rule.name true)).analyze oracle units).without
        rule.name := by
  have hfound : units.flatMap
      ((engine.withSettings (settings.switch rule.name false)).analyzeUnit oracle) =
        (units.flatMap ((engine.withSettings (settings.switch rule.name true)).analyzeUnit oracle)
          ).filter (·.rule != rule.name) := by
    rw [List.filter_flatMap]
    refine List.flatMap_congr fun unit _ => ?_
    rw [analyzeUnit_eq, analyzeUnit_eq, List.filter_flatMap]
    exact List.flatMap_congr fun node _ => engine.dispatch_switch_off settings rule.name _ node
  have hsettings : (engine.withSettings (settings.switch rule.name true)).settingsViolations.filter
      (·.rule != rule.name) =
        (engine.withSettings (settings.switch rule.name false)).settingsViolations := by
    refine List.filter_eq_self.2 fun violation h => ?_
    obtain ⟨issue, -, rfl⟩ := List.mem_map.1 h
    exact bne_iff_ne.2 rule.name_ne_settingsRule.symm
  simp only [analyze, LintResult.without, hfound, List.filter_append, hsettings,
    filter_findings (fun _ => ruleOfCode?_of_mem_flatMap) (· != rule.name)]

end Engine

/-! ### Setting a severity -/

/-- The finding with another severity, if it bears the name. -/
def Violation.rate (name : String) (severity : Severity) (violation : Violation) : Violation :=
  if violation.rule = name then { violation with severity } else violation

/-- The result with another severity for the findings under a name. -/
def LintResult.rate (name : String) (severity : Severity) (result : LintResult) : LintResult :=
  { result with violations := result.violations.map (Violation.rate name severity) }

theorem map_eq_self {α : Type} {f : α → α} {xs : List α} (h : ∀ a ∈ xs, f a = a) : xs.map f = xs :=
  (List.map_congr_left h).trans (List.map_id xs)

namespace Violation

variable {name : String} {severity : Severity}

theorem rate_of_rule_eq {violation : Violation} (h : violation.rule = name) :
    violation.rate name severity = { violation with severity } := if_pos h

theorem rate_of_rule_ne {violation : Violation} (h : violation.rule ≠ name) :
    violation.rate name severity = violation := if_neg h

@[simp] theorem rule_rate (violation : Violation) :
    (violation.rate name severity).rule = violation.rule := by
  rw [rate]
  split <;> rfl

@[simp] theorem location_rate (violation : Violation) :
    (violation.rate name severity).location = violation.location := by
  rw [rate]
  split <;> rfl

@[simp] theorem code_rate (violation : Violation) :
    (violation.rate name severity).code = violation.code := by
  rw [rate]
  split <;> rfl

/-- **Equal findings stay equal, and others different**, when those under the name had one severity.
Otherwise two findings that differ in severity alone would become repeats of each other. -/
theorem beq_rate {a b : Violation}
    (h : a.rule = name → b.rule = name → a.severity = b.severity) :
    (a.rate name severity == b.rate name severity) = (a == b) := by
  rw [Bool.eq_iff_iff]
  by_cases ha : a.rule = name
  · by_cases hb : b.rule = name
    · rw [rate_of_rule_eq ha, rate_of_rule_eq hb, beq_iff, beq_iff]
      simp only [h ha hb]
    · -- findings of different rules are different in any case
      have hne : a.rule ≠ b.rule := fun heq => hb (heq ▸ ha)
      simp only [beq_iff, rule_rate, hne, false_and, and_false]
  · by_cases hb : b.rule = name
    · have hne : a.rule ≠ b.rule := fun heq => ha (heq.trans hb)
      simp only [beq_iff, rule_rate, hne, false_and, and_false]
    · rw [rate_of_rule_ne ha, rate_of_rule_ne hb]

end Violation

namespace Engine

variable (engine : Engine Builtin) (settings : Settings)

/-- The order of findings does not look at severities. -/
theorem le_rate (name : String) (severity : Severity) (a b : Violation) :
    le a b = le (a.rate name severity) (b.rate name severity) := by
  simp only [le, cmp, compareLex, compareOn, Violation.location_rate, Violation.code_rate]

/-- **Putting findings in order and dropping repeats** may be done before or after those under a
name are given a severity, if they had one severity. -/
theorem rate_findings {found : List Violation} {name : String} (severity : Severity)
    (hfound : ∀ a ∈ found, ∀ b ∈ found, a.rule = name → b.rule = name → a.severity = b.severity) :
    dropRepeats ((found.map (Violation.rate name severity)).mergeSort le) =
      (dropRepeats (found.mergeSort le)).map (Violation.rate name severity) := by
  have hsort : (found.mergeSort le).map (Violation.rate name severity) =
      (found.map (Violation.rate name severity)).mergeSort le :=
    List.map_mergeSort fun a _ b _ => le_rate name severity a b
  rw [← hsort]
  refine dropRepeats_map (fun a => congrArg Location.line a.location_rate) fun a ha b hb => ?_
  exact Violation.beq_rate (hfound a (List.mem_mergeSort.1 ha) b (List.mem_mergeSort.1 hb))

/-- A finding has the severity of a rule of its name, when no other is set for the name. This is
where the severity of a finding comes from in the first place. -/
theorem exists_rule_of_mem_analyzeUnit {engine : Engine Builtin} {oracle : Oracle}
    {unit : CompilationUnit} {violation : Violation}
    (h : violation ∈ engine.analyzeUnit oracle unit)
    (hunset : engine.settings.severity? violation.rule = none) :
    ∃ rule ∈ engine.rules, rule.name = violation.rule ∧ rule.severity = violation.severity := by
  rw [analyzeUnit_eq] at h
  obtain ⟨node, -, h⟩ := List.mem_flatMap.1 h
  obtain ⟨rule, hrule, h⟩ := List.mem_flatMap.1 h
  have hrules : rule ∈ engine.rules := (List.mem_filter.1 hrule).1
  obtain ⟨severity, hmade⟩ := signed_of_mem_checkNode h
  have hname : LintRule.name rule = violation.rule := hmade.rule.symm
  rw [checkNode, overrideSeverity, hname, hunset] at h
  split at h
  · have hsigned := Builtin.signed_of_mem_check h
    exact ⟨rule, hrules, hsigned.rule.symm, hsigned.severity.symm⟩
  · cases h

/-- **Findings under one name have one severity** when no two rules share a name and no severity is
set for it. -/
theorem severity_eq_of_rule_eq {engine : Engine Builtin} {oracle : Oracle}
    {units : List CompilationUnit} {a b : Violation}
    (hnames : (engine.rules.map Builtin.name).Nodup)
    (ha : a ∈ units.flatMap (engine.analyzeUnit oracle))
    (hb : b ∈ units.flatMap (engine.analyzeUnit oracle)) (hrule : a.rule = b.rule)
    (hunset : engine.settings.severity? a.rule = none) : a.severity = b.severity := by
  obtain ⟨unit, -, ha⟩ := List.mem_flatMap.1 ha
  obtain ⟨unit', -, hb⟩ := List.mem_flatMap.1 hb
  obtain ⟨left, hleft, hnameLeft, hseverityLeft⟩ := exists_rule_of_mem_analyzeUnit ha hunset
  obtain ⟨right, hright, hnameRight, hseverityRight⟩ :=
    exists_rule_of_mem_analyzeUnit hb (hrule ▸ hunset)
  have hname : left.name = right.name := by rw [hnameLeft, hnameRight, hrule]
  obtain rfl := List.inj_on_of_nodup_map hnames hleft hright hname
  rw [← hseverityLeft, ← hseverityRight]

/-- **A severity that is set** is given to what the rule finds at a node. Findings of other rules
are left alone, as they bear other names. -/
theorem checkNode_rate (name : String) (severity : Severity) (context : UnitContext) (node : Node)
    (rule : Builtin) :
    (engine.withSettings (settings.rate name (some severity))).checkNode context node rule =
      ((engine.withSettings (settings.rate name none)).checkNode context node rule).map
        (Violation.rate name severity) := by
  have hrule : LintRule.name rule = rule.name := rfl
  by_cases hname : rule.name = name
  · -- the findings are those of the rule itself, which all bear its name
    rw [checkNode, checkNode]
    split
    · simp only [overrideSeverity, withSettings, hrule, hname, Settings.severity?_rate_self]
      refine List.map_congr_left fun violation h => ?_
      have hsigned := Builtin.signed_of_mem_check h
      rw [Violation.rate_of_rule_eq (hsigned.rule.trans hname)]
    · rfl
  · -- a rule of another name is left alone
    have hsame :
        (engine.withSettings (settings.rate name (some severity))).checkNode context node rule =
        (engine.withSettings (settings.rate name none)).checkNode context node rule := by
      simp only [checkNode, overrideSeverity, withSettings, hrule,
        Settings.severity?_rate_of_ne settings hname]
    rw [hsame]
    refine (map_eq_self fun violation h => ?_).symm
    obtain ⟨severity, hsigned⟩ := signed_of_mem_checkNode h
    exact Violation.rate_of_rule_ne (hsigned.rule ▸ hname)

/-- The same for all rules together, which are the same rules with either settings. -/
theorem dispatch_rate (name : String) (severity : Severity) (context : UnitContext) (node : Node) :
    (engine.withSettings (settings.rate name (some severity))).dispatch context node =
      ((engine.withSettings (settings.rate name none)).dispatch context node).map
        (Violation.rate name severity) := by
  have hactive : (engine.withSettings (settings.rate name (some severity))).activeRules =
      (engine.withSettings (settings.rate name none)).activeRules := by
    simp only [activeRules, withSettings, Settings.isEnabled_rate]
  rw [dispatch, dispatch, hactive, List.map_flatMap]
  exact List.flatMap_congr fun rule _ =>
    engine.checkNode_rate settings name severity context node rule

/-- **To set a severity** is to give it to the findings in the result. Names must not be shared, or
rules with different severities of their own could become alike. -/
theorem analyze_rate (hnames : (engine.rules.map Builtin.name).Nodup) (rule : Builtin)
    (severity : Severity) (oracle : Oracle) (units : List CompilationUnit) :
    (engine.withSettings (settings.rate rule.name (some severity))).analyze oracle units =
      ((engine.withSettings (settings.rate rule.name none)).analyze oracle units).rate rule.name
        severity := by
  let unset := engine.withSettings (settings.rate rule.name none)
  have hfound : units.flatMap
      ((engine.withSettings (settings.rate rule.name (some severity))).analyzeUnit oracle) =
        (units.flatMap (unset.analyzeUnit oracle)).map (Violation.rate rule.name severity) := by
    rw [List.map_flatMap]
    refine List.flatMap_congr fun unit _ => ?_
    rw [analyzeUnit_eq, analyzeUnit_eq, List.map_flatMap]
    exact List.flatMap_congr fun node _ => engine.dispatch_rate settings rule.name severity _ node
  have hseverity : ∀ a ∈ units.flatMap (unset.analyzeUnit oracle),
      ∀ b ∈ units.flatMap (unset.analyzeUnit oracle),
        a.rule = rule.name → b.rule = rule.name → a.severity = b.severity := by
    intro a ha b hb harule hbrule
    have hunset : unset.settings.severity? a.rule = none := by
      rw [harule]
      exact settings.severity?_rate_self rule.name none
    have hnames' : (unset.rules.map Builtin.name).Nodup := hnames
    exact severity_eq_of_rule_eq hnames' ha hb (harule.trans hbrule.symm) hunset
  have hsettings : unset.settingsViolations.map (Violation.rate rule.name severity) =
      (engine.withSettings (settings.rate rule.name (some severity))).settingsViolations := by
    refine map_eq_self fun violation h => ?_
    obtain ⟨issue, -, rfl⟩ := List.mem_map.1 h
    exact Violation.rate_of_rule_ne rule.name_ne_settingsRule.symm
  change _ = (unset.analyze oracle units).rate rule.name severity
  simp only [analyze, LintResult.rate, hfound, rate_findings severity hseverity, List.map_append,
    hsettings]

/-! ### Engines of presets -/

/-- No rule is added and none is renamed. Some may be left out, those that refuse their sections. -/
theorem names_build_sublist (rules : List Builtin) (known : List String)
    (errors : List SettingsError) (settings : Settings) :
    ((build rules known errors settings).rules.map Builtin.name).Sublist
      (rules.map Builtin.name) := by
  rw [build]
  induction rules with
  | nil => exact .slnil
  | cons rule rest ih =>
    rw [List.map_cons, List.map_cons, List.filterMap_cons]
    rcases hprepare : prepare settings rule with error | prepared
    · exact .cons rule.name ih
    · rw [accepted, List.map_cons, name_of_prepare hprepare]
      exact .cons_cons rule.name ih

end Engine

namespace Preset

/-- The rules of a preset have different names. -/
theorem nodup_names (preset : Preset) : (preset.rules.map Builtin.name).Nodup := by
  cases preset <;> decide

/-- The engine for changed settings is built from the rules of the same preset, for the preset is
not set in the section of a rule. -/
theorem exists_engine_update_eq (settings : Settings) :
    ∃ (preset : Preset) (errors : List SettingsError), ∀ rule change,
      engine (settings.update rule change) =
        Engine.build preset.rules (allRules.map Builtin.name) errors
          (settings.update rule change) := by
  have hpreset : ∀ rule change, ofSettings (settings.update rule change) = ofSettings settings :=
    fun _ _ => rfl
  rcases hchosen : ofSettings settings with error | preset
  · exact ⟨recommended, [error], fun rule change => by rw [engine, hpreset, hchosen]⟩
  · exact ⟨preset, [], fun rule change => by rw [engine, hpreset, hchosen]⟩

end Preset

end DeclLint
