import DeclLint.Proofs.Settings.Options
import DeclLint.Rules.Builtin

/-!
# The options of the built-in rules

Each rule lists its options with a setter for each. Against these lists stands what a section is
for: the table of keys and kinds (`Builtin.options`) and the rule as it should be afterwards, field
by field (`Builtin.withOptions`). A key under which another field is set, a kind that is not the
field's own, an option that is forgotten or read too early would tell the two apart.
-/

namespace DeclLint

namespace Builtin

/-- The options of a rule, in the order in which they are read. -/
def options : Builtin → List OptionSpec
  | internalApiBoundary _ => [
    ⟨"marker", .qualifiedName⟩, ⟨"injection", .qualifiedName⟩, ⟨"restricted_module", .modulePath⟩]
  | requiredTag _ => [
    ⟨"remote_operations", .qualifiedNames⟩, ⟨"tag_marker", .qualifiedName⟩,
    ⟨"tag_base", .qualifiedName⟩, ⟨"parameter_name", .identifier⟩]
  | mandatoryCall _ => [
    ⟨"base", .qualifiedName⟩, ⟨"preconditions", .qualifiedName⟩, ⟨"sentinel", .qualifiedName⟩,
    ⟨"method", .identifier⟩]
  | nonVoidMemoization _ => [⟨"function", .qualifiedName⟩, ⟨"void_types", .qualifiedNames⟩]
  | restrictedOperator _ => [
    ⟨"gate", .qualifiedName⟩, ⟨"block_parameter", .identifier⟩, ⟨"stream", .qualifiedName⟩]
  | producingState _ => [
    ⟨"function", .qualifiedName⟩, ⟨"producer_parameter", .identifier⟩, ⟨"scope", .qualifiedName⟩,
    ⟨"mutable_state", .qualifiedName⟩, ⟨"property", .identifier⟩]

/-- The rule with what a section has for its options; the rest stays. -/
def withOptions (settings : RuleSettings) : Builtin → Builtin
  | internalApiBoundary rule => internalApiBoundary
    { severity := rule.severity
      marker := (settings.text? "marker").getD rule.marker
      injection := (settings.text? "injection").getD rule.injection
      restrictedModule :=
        ((settings.text? "restricted_module").map Path.mk).getD rule.restrictedModule }
  | requiredTag rule => requiredTag
    { severity := rule.severity
      remoteOperations := (settings.texts? "remote_operations").getD rule.remoteOperations
      tagMarker := (settings.text? "tag_marker").getD rule.tagMarker
      tagBase := (settings.text? "tag_base").getD rule.tagBase
      parameterName := (settings.text? "parameter_name").getD rule.parameterName }
  | mandatoryCall rule => mandatoryCall
    { severity := rule.severity
      base := (settings.text? "base").getD rule.base
      preconditions := (settings.text? "preconditions").getD rule.preconditions
      sentinel := (settings.text? "sentinel").getD rule.sentinel
      method := (settings.text? "method").getD rule.method }
  | nonVoidMemoization rule => nonVoidMemoization
    { severity := rule.severity
      function := ((settings.text? "function").map FunctionName.parse).getD rule.function
      voidTypes := (settings.texts? "void_types").getD rule.voidTypes }
  | restrictedOperator rule => restrictedOperator
    { severity := rule.severity
      gate := ((settings.text? "gate").map FunctionName.parse).getD rule.gate
      blockParameter := (settings.text? "block_parameter").getD rule.blockParameter
      stream := (settings.text? "stream").getD rule.stream }
  | producingState rule => producingState
    { severity := rule.severity
      function := ((settings.text? "function").map FunctionName.parse).getD rule.function
      producerParameter := (settings.text? "producer_parameter").getD rule.producerParameter
      scope := (settings.text? "scope").getD rule.scope
      mutableState := (settings.text? "mutable_state").getD rule.mutableState
      property := (settings.text? "property").getD rule.property }

/-- The severity of a rule is no option: it is set for the section as a whole, and by the engine. -/
@[simp] theorem severity_withOptions (settings : RuleSettings) (rule : Builtin) :
    (rule.withOptions settings).severity = rule.severity := by
  cases rule <;> rfl

@[simp] theorem options_withOptions (settings : RuleSettings) (rule : Builtin) :
    (rule.withOptions settings).options = rule.options := by
  cases rule <;> rfl

/-- What is set twice is set once, as each option puts a value in place of another. -/
theorem withOptions_withOptions (settings : RuleSettings) (rule : Builtin) :
    (rule.withOptions settings).withOptions settings = rule.withOptions settings := by
  have hgetD : ∀ {α : Type} (o : Option α) (a : α), o.getD (o.getD a) = o.getD a := by
    intro α o a
    cases o <;> rfl
  cases rule <;> simp only [withOptions, hgetD]

/-! ### The lists of setters -/

/-- **The setters of a rule set the fields of the table**, under its keys, by its kinds and in its
order. -/
theorem exists_known (rule : Builtin) :
    ∃ (ρ : Type) (known : List (Setting ρ)) (wrap : ρ → Builtin) (inner : ρ),
      known.map Setting.spec = rule.options ∧
      ∀ settings, configure settings rule =
          (Setting.configure rule.name known settings inner).map wrap ∧
        wrap (Setting.takeAll settings known inner) = rule.withOptions settings := by
  cases rule with
  | internalApiBoundary rule =>
    -- whether an option is there or not, the setter and the table agree
    refine ⟨_, InternalApiBoundary.settings, internalApiBoundary, rule, rfl,
      fun settings => ⟨rfl, ?_⟩⟩
    simp only [withOptions, Setting.takeAll, InternalApiBoundary.settings, List.foldl_cons,
      List.foldl_nil, Setting.take]
    rcases settings.text? "marker" with _ | _ <;> rcases settings.text? "injection" with _ | _ <;>
      rcases settings.text? "restricted_module" with _ | _ <;> rfl
  | requiredTag rule =>
    refine ⟨_, RequiredTag.settings, requiredTag, rule, rfl, fun settings => ⟨rfl, ?_⟩⟩
    simp only [withOptions, Setting.takeAll, RequiredTag.settings, List.foldl_cons,
      List.foldl_nil, Setting.take]
    rcases settings.texts? "remote_operations" with _ | _ <;>
      rcases settings.text? "tag_marker" with _ | _ <;>
      rcases settings.text? "tag_base" with _ | _ <;>
      rcases settings.text? "parameter_name" with _ | _ <;> rfl
  | mandatoryCall rule =>
    refine ⟨_, MandatoryCall.settings, mandatoryCall, rule, rfl, fun settings => ⟨rfl, ?_⟩⟩
    simp only [withOptions, Setting.takeAll, MandatoryCall.settings, List.foldl_cons,
      List.foldl_nil, Setting.take]
    rcases settings.text? "base" with _ | _ <;> rcases settings.text? "preconditions" with _ | _ <;>
      rcases settings.text? "sentinel" with _ | _ <;> rcases settings.text? "method" with _ | _ <;>
      rfl
  | nonVoidMemoization rule =>
    refine ⟨_, NonVoidMemoization.settings, nonVoidMemoization, rule, rfl,
      fun settings => ⟨rfl, ?_⟩⟩
    simp only [withOptions, Setting.takeAll, NonVoidMemoization.settings, List.foldl_cons,
      List.foldl_nil, Setting.take]
    rcases settings.text? "function" with _ | _ <;>
      rcases settings.texts? "void_types" with _ | _ <;> rfl
  | restrictedOperator rule =>
    refine ⟨_, RestrictedOperator.settings, restrictedOperator, rule, rfl,
      fun settings => ⟨rfl, ?_⟩⟩
    simp only [withOptions, Setting.takeAll, RestrictedOperator.settings, List.foldl_cons,
      List.foldl_nil, Setting.take]
    rcases settings.text? "gate" with _ | _ <;>
      rcases settings.text? "block_parameter" with _ | _ <;>
      rcases settings.text? "stream" with _ | _ <;> rfl
  | producingState rule =>
    refine ⟨_, ProducingState.settings, producingState, rule, rfl, fun settings => ⟨rfl, ?_⟩⟩
    simp only [withOptions, Setting.takeAll, ProducingState.settings, List.foldl_cons,
      List.foldl_nil, Setting.take]
    rcases settings.text? "function" with _ | _ <;>
      rcases settings.text? "producer_parameter" with _ | _ <;>
      rcases settings.text? "scope" with _ | _ <;>
      rcases settings.text? "mutable_state" with _ | _ <;>
      rcases settings.text? "property" with _ | _ <;> rfl

/-! ### Sections taken and refused -/

/-- **A section that suits a rule** gives it all the options it has, and no error. -/
theorem configure_of_suits {settings : RuleSettings} {rule : Builtin}
    (h : settings.Suits rule.options) :
    configure settings rule = ⟨rule.withOptions settings, none⟩ := by
  obtain ⟨ρ, known, wrap, inner, hoptions, hknown⟩ := exists_known rule
  obtain ⟨hconfigure, htaken⟩ := hknown settings
  rw [hconfigure, Setting.configure_of_suits (hoptions ▸ h), ← htaken]
  rfl

/-- **Any other section is refused** with an error that bears the name of the rule and a key of the
section. -/
theorem configure_of_not_suits {settings : RuleSettings} {rule : Builtin}
    (h : ¬ settings.Suits rule.options) :
    ∃ error, (configure settings rule).error = some error ∧
      settings.Refusal rule.name rule.options error := by
  obtain ⟨ρ, known, wrap, inner, hoptions, hknown⟩ := exists_known rule
  obtain ⟨hconfigure, -⟩ := hknown settings
  obtain ⟨error, herror, hrefusal⟩ :=
    Setting.configure_of_not_suits rule.name (hoptions ▸ h) inner
  refine ⟨error, ?_, hoptions ▸ hrefusal⟩
  rw [hconfigure]
  exact herror

/-- **A rule takes exactly the sections that suit it.** It then has every option that the section
has, and is else as it was; taking the same section again changes nothing. For any other section
there is one error: for the least unknown key, or else for the first option that does not fit. -/
theorem configure_takes_or_refuses (settings : RuleSettings) (rule : Builtin) :
    ((configure settings rule).error = none ↔ settings.Suits rule.options) ∧
    ((configure settings rule).error = none →
      (configure settings rule).rule = rule.withOptions settings ∧
      (configure settings rule).rule.severity = rule.severity ∧
      configure settings (configure settings rule).rule = configure settings rule) ∧
    ∀ error, (configure settings rule).error = some error →
      settings.Refusal rule.name rule.options error := by
  by_cases hsuits : settings.Suits rule.options
  · have hagain : settings.Suits (rule.withOptions settings).options :=
      by simpa using hsuits
    rw [configure_of_suits hsuits]
    refine ⟨iff_of_true rfl hsuits, fun _ => ⟨rfl, severity_withOptions settings rule, ?_⟩, ?_⟩
    · rw [configure_of_suits hagain, withOptions_withOptions]
    · intro error herror
      cases herror
  · obtain ⟨error, herror, hrefusal⟩ := configure_of_not_suits hsuits
    rw [herror]
    refine ⟨iff_of_false nofun hsuits, nofun, ?_⟩
    intro other hother
    obtain rfl := Option.some.inj hother
    exact hrefusal

end Builtin

end DeclLint
