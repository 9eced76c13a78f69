import DeclLint.Engine
import DeclLint.Proofs.Text.ByteOrder

/-!
# Which rules run, and what is reported about the settings

An engine is built from rules of any kind, of which several may have one name. A rule may be changed
by its section before it refuses it; then it is left out as a whole.

* A rule runs exactly when it has no section or takes it, and then as the section leaves it
  (`Engine.rules_build`). The other rules have no part in a pass (`Engine.analyzeUnit_build`).
* What is wrong with the settings is reported in three groups, each in an order of its own
  (`Engine.issues_build`).
-/

namespace DeclLint

/-- The names of the sections. -/
def Settings.sectionNames (settings : Settings) : List String := settings.rules.map (·.1)

namespace Engine

variable {ρ : Type} [LintRule ρ]

/-- Why a rule refuses its section, if it does. -/
def refusal? (settings : Settings) (rule : ρ) : Option SettingsError :=
  (settings.section? (LintRule.name rule)).bind fun options =>
    (LintRule.configure options rule).error

/-- Whether a rule has no section or takes it. -/
def isReady (settings : Settings) (rule : ρ) : Bool := (refusal? settings rule).isNone

/-- A rule as its section leaves it. -/
def configured (settings : Settings) (rule : ρ) : ρ :=
  match settings.section? (LintRule.name rule) with
  | none => rule
  | some options => (LintRule.configure options rule).rule

/-- A finding about the settings. -/
def settingsViolation (settings : Settings) (error : SettingsError) : Violation where
  code := "PL000"
  rule := "configuration"
  severity := .error
  location := .ofLine settings.sourcePath 0 0
  message := error.message

variable {settings : Settings} {rule : ρ}

/-! ### One rule -/

/-- A rule that has no complaint about its section, or has no section, is ready as the section
leaves it. -/
theorem prepare_of_refusal?_eq_none (h : refusal? settings rule = none) :
    prepare settings rule = .ok (configured settings rule) := by
  rw [prepare, configured]
  rcases hsection : settings.section? (LintRule.name rule) with _ | options
  · rfl
  · rw [refusal?, hsection, Option.bind_some] at h
    simp only [h]

/-- A complaint is all that is left of a rule that refuses its section. -/
theorem prepare_of_refusal?_eq_some {error : SettingsError}
    (h : refusal? settings rule = some error) :
    prepare settings rule = .error error := by
  obtain ⟨options, hsection, herror⟩ := Option.bind_eq_some_iff.1 h
  rw [prepare, hsection]
  simp only [herror]

/-! ### All rules -/

/-- **The rules that are ready run**, in the order in which they were given, each configured by its
section. -/
theorem rules_build (rules : List ρ) (known : List String) (errors : List SettingsError)
    (settings : Settings) :
    (build rules known errors settings).rules =
      (rules.filter (isReady settings)).map (configured settings) := by
  change (rules.map (prepare settings)).filterMap accepted = _
  induction rules with
  | nil => rfl
  | cons rule rest ih =>
    rw [List.map_cons, List.filterMap_cons, ih, List.filter_cons, isReady]
    rcases hrefusal : refusal? settings rule with _ | error
    · rw [prepare_of_refusal?_eq_none hrefusal]
      rfl
    · rw [prepare_of_refusal?_eq_some hrefusal]
      rfl

/-- **What is wrong with the settings**, in three groups: the errors that were given, the sections
for rules that nobody knows, and the sections that were refused. -/
theorem issues_build (rules : List ρ) (known : List String) (errors : List SettingsError)
    (settings : Settings) :
    (build rules known errors settings).issues =
      errors ++ (unknownSections rules known settings).map .unknownRule ++
        rules.filterMap (refusal? settings) := by
  have hrefused :
      (rules.map (prepare settings)).filterMap refused = rules.filterMap (refusal? settings) := by
    rw [List.filterMap_map]
    refine List.filterMap_congr fun rule _ => ?_
    rcases hrefusal : refusal? settings rule with _ | error
    · rw [Function.comp_apply, prepare_of_refusal?_eq_none hrefusal]
      rfl
    · rw [Function.comp_apply, prepare_of_refusal?_eq_some hrefusal]
      rfl
  rw [← hrefused]
  rfl

/-! ### Passes -/

/-- A pass depends on the rules that run and on the settings only. What is wrong with the settings
is reported, but has no part in checking. -/
theorem analyzeUnit_congr {left right : Engine ρ} (hrules : left.rules = right.rules)
    (hsettings : left.settings = right.settings) : left.analyzeUnit = right.analyzeUnit := by
  obtain ⟨rules, settings, issues⟩ := left
  obtain ⟨rules', settings', issues'⟩ := right
  obtain rfl : rules = rules' := hrules
  obtain rfl : settings = settings' := hsettings
  rfl

/-- **A rule that refuses its section has no part in a pass**: it may as well not have been
given. -/
theorem analyzeUnit_build (rules : List ρ) (known : List String) (errors : List SettingsError)
    (settings : Settings) :
    (build rules known errors settings).analyzeUnit =
      (build (rules.filter (isReady settings)) known errors settings).analyzeUnit := by
  refine analyzeUnit_congr ?_ rfl
  rw [rules_build, rules_build, List.filter_filter]
  simp only [Bool.and_self]

/-! ### Unknown sections -/

/-- **The sections that are not for any rule**: those whose names neither a rule that was given nor
a known one bears. They are sorted, which is why this is said up to the order. -/
theorem unknownSections_perm (rules : List ρ) (known : List String) (settings : Settings) :
    (unknownSections rules known settings).Perm
      (settings.sectionNames.filter fun name => name ∉ rules.map LintRule.name ∧ name ∉ known) := by
  have hsame : ∀ name, (!(rules.map LintRule.name).contains name && !known.contains name) =
      decide (name ∉ rules.map LintRule.name ∧ name ∉ known) := by
    intro name
    rw [List.contains_eq_mem, List.contains_eq_mem, Bool.decide_and, decide_not, decide_not]
  rw [unknownSections]
  simp only [hsame]
  exact (List.mergeSort_perm _ _).filter _

/-- The sections are named in the order of the bytes of their names, not in that of the file. -/
theorem pairwise_unknownSections (rules : List ρ) (known : List String) (settings : Settings) :
    (unknownSections rules known settings).Pairwise fun a b => Text.bytes a ≤ Text.bytes b :=
  (Text.pairwise_bytes_mergeSort _).filter _

/-- Sections of different names are named once each. Without a repeat, the order is a strict one. -/
theorem pairwise_lt_unknownSections {settings : Settings} (hnames : settings.sectionNames.Nodup)
    (rules : List ρ) (known : List String) :
    (unknownSections rules known settings).Pairwise fun a b => Text.bytes a < Text.bytes b := by
  have hnodup : (unknownSections rules known settings).Nodup :=
    (unknownSections_perm rules known settings).nodup_iff.2 (hnames.filter _)
  refine ((pairwise_unknownSections rules known settings).and hnodup).imp ?_
  rintro a b ⟨hle, hne⟩
  rw [Text.bytes_le_bytes_iff] at hle
  exact Text.bytes_lt_bytes_iff.2 (Std.lt_of_le_of_ne hle hne)

/-- **Building an engine.** The rules that run are those without a section and those that take it,
in the order in which they were given and as the section leaves them; the others have no part in a
pass. What is wrong with the settings is reported in this order: the errors that were given, the
sections that name no registered or known rule in ascending order, and why rules refused their
sections. Each finding is an error with the code of the settings, at no line of their file. -/
theorem build_keeps_and_reports (rules : List ρ) (known : List String) (errors : List SettingsError)
    (settings : Settings) :
    (build rules known errors settings).rules =
      (rules.filter (isReady settings)).map (configured settings) ∧
    (build rules known errors settings).analyzeUnit =
      (build (rules.filter (isReady settings)) known errors settings).analyzeUnit ∧
    ∃ unknown : List String,
      unknown.Perm
        (settings.sectionNames.filter fun name => name ∉ rules.map LintRule.name ∧ name ∉ known) ∧
      (unknown.Pairwise fun a b => Text.bytes a ≤ Text.bytes b) ∧
      (settings.sectionNames.Nodup → unknown.Pairwise fun a b => Text.bytes a < Text.bytes b) ∧
      (build rules known errors settings).settingsViolations =
        (errors ++ unknown.map SettingsError.unknownRule ++ rules.filterMap (refusal? settings)).map
          (settingsViolation settings) := by
  refine ⟨rules_build rules known errors settings, analyzeUnit_build rules known errors settings,
    unknownSections rules known settings, unknownSections_perm rules known settings,
    pairwise_unknownSections rules known settings,
    fun hnames => pairwise_lt_unknownSections hnames rules known, ?_⟩
  rw [settingsViolations, issues_build]
  rfl

end Engine

end DeclLint
