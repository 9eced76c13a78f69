import DeclLint.Proofs.Name
import DeclLint.Proofs.Text.ByteOrder
import DeclLint.Rule.Setting

/-!
# What a section is taken for

A rule reads its options one after the other and stops at the first that it cannot take. Here is
what that comes to, for any list of options, without the reading:

* a section *suits* the options when it has no other keys, and every option that is there has a
  value of its kind (`RuleSettings.Suits`). Then each option that is there is set, and nothing else
  (`Setting.configure_of_suits`);
* any other section is refused, with one error (`RuleSettings.Refusal`): for the least key that is
  not known, or else for the first option, in the rule's own order, whose value is not of its kind
  (`Setting.configure_of_not_suits`).
-/

namespace DeclLint

/-! ### Kinds of options -/

/-- The kind of value an option takes. -/
inductive OptionKind where
  /-- a qualified name -/
  | qualifiedName
  /-- a list of qualified names -/
  | qualifiedNames
  /-- an identifier -/
  | identifier
  /-- the path of a module -/
  | modulePath
deriving DecidableEq

namespace OptionKind

/-- A value of the kind. -/
def Accepts : OptionKind → Toml.Value → Prop
  | qualifiedName, .string text => Name.Qualified text
  | qualifiedNames, .array items =>
    ∃ names : List String, items = names.map .string ∧ ∀ name ∈ names, Name.Qualified name
  | identifier, .string text => Name.Identifier text
  | modulePath, .string text => Text.isBlank text = false
  | _, _ => False

/-- What is wrong with a value that is not of the kind, under a key of a rule's section. -/
inductive Complaint (rule key : String) : OptionKind → Toml.Value → SettingsError → Prop where
  /-- there should be a text -/
  | notText {kind : OptionKind} {value : Toml.Value} :
    kind ≠ qualifiedNames → (∀ text, value ≠ .string text) →
    Complaint rule key kind value (.invalidOption rule key
      ("expected a string, found `" ++ value.datetimeAsTable.display ++ "`"))
  /-- the text is no such name -/
  | badText {kind : OptionKind} {text : String} :
    kind ≠ qualifiedNames → ¬ kind.Accepts (.string text) →
    Complaint rule key kind (.string text) (.invalidName rule key text)
  /-- there should be a list -/
  | notList {value : Toml.Value} :
    (∀ items, value ≠ .array items) →
    Complaint rule key qualifiedNames value
      (.invalidOption rule key "expected an array of strings")
  /-- behind some names comes something that is no text -/
  | notTextItem {names : List String} {item : Toml.Value} {rest : List Toml.Value} :
    (∀ name ∈ names, Name.Qualified name) → (∀ text, item ≠ .string text) →
    Complaint rule key qualifiedNames (.array (names.map .string ++ item :: rest))
      (.invalidOption rule key "expected an array of strings")
  /-- behind some names comes a text that is no name -/
  | badItem {names : List String} {text : String} {rest : List Toml.Value} :
    (∀ name ∈ names, Name.Qualified name) → ¬ Name.Qualified text →
    Complaint rule key qualifiedNames (.array (names.map .string ++ .string text :: rest))
      (.invalidName rule key text)

/-- The test of a text of the kind. A list is of the kind when its items pass. -/
def test : OptionKind → String → Bool
  | qualifiedName => isQualifiedName
  | qualifiedNames => isQualifiedName
  | identifier => isIdentifier
  | modulePath => fun text => !Text.isBlank text

/-- Options that are texts are accepted by the test of their kind. -/
theorem test_iff {kind : OptionKind} (hkind : kind ≠ qualifiedNames) {text : String} :
    kind.test text = true ↔ kind.Accepts (.string text) := by
  cases kind with
  | qualifiedName => exact Name.isQualifiedName_iff
  | qualifiedNames => exact absurd rfl hkind
  | identifier => exact Name.isIdentifier_iff
  | modulePath => exact Bool.not_eq_true' _ ▸ Iff.rfl

/-- All kinds but one are of texts. -/
theorem exists_text_of_accepts {kind : OptionKind} {value : Toml.Value}
    (hkind : kind ≠ qualifiedNames) (h : kind.Accepts value) : ∃ text, value = .string text := by
  unfold Accepts at h
  split at h
  · exact ⟨_, rfl⟩
  · exact absurd rfl hkind
  · exact ⟨_, rfl⟩
  · exact ⟨_, rfl⟩
  · exact h.elim

/-- A list that is not of the kind has names at its front, and then an item that is none. -/
theorem exists_first_bad_item {items : List Toml.Value}
    (h : ¬ qualifiedNames.Accepts (.array items)) :
    ∃ (names : List String) (item : Toml.Value) (rest : List Toml.Value),
      items = names.map .string ++ item :: rest ∧ (∀ name ∈ names, Name.Qualified name) ∧
      ∀ text, item = .string text → ¬ Name.Qualified text := by
  induction items with
  | nil => exact absurd ⟨[], rfl, fun _ hmem => absurd hmem List.not_mem_nil⟩ h
  | cons item rest ih =>
    by_cases hitem : ∃ text, item = .string text ∧ Name.Qualified text
    · obtain ⟨text, rfl, htext⟩ := hitem
      have hrest : ¬ qualifiedNames.Accepts (.array rest) := by
        rintro ⟨names, rfl, hnames⟩
        exact h ⟨text :: names, rfl, List.forall_mem_cons.2 ⟨htext, hnames⟩⟩
      obtain ⟨names, bad, behind, rfl, hnames, hbad⟩ := ih hrest
      exact ⟨text :: names, bad, behind, rfl, List.forall_mem_cons.2 ⟨htext, hnames⟩, hbad⟩
    · refine ⟨[], item, rest, rfl, fun _ hmem => absurd hmem List.not_mem_nil, ?_⟩
      intro text htext hname
      exact hitem ⟨text, htext, hname⟩

end OptionKind

/-- An option of a rule. -/
structure OptionSpec where
  /-- the key -/
  key : String
  /-- the kind of value it takes -/
  kind : OptionKind

/-- The option is not there, or has a value of its kind. -/
def OptionSpec.Fits (settings : RuleSettings) (option : OptionSpec) : Prop :=
  ∀ value, settings.option? option.key = some value → option.kind.Accepts value

/-- The text of a value. -/
def Toml.Value.text? : Toml.Value → Option String
  | .string text => some text
  | _ => none

/-- The texts of a list. -/
def Toml.Value.texts? : Toml.Value → Option (List String)
  | .array items => some (items.filterMap text?)
  | _ => none

namespace RuleSettings

variable (settings : RuleSettings)

/-- The keys of the options that are there. -/
def keys : List String := settings.options.map (·.1)

/-- The text of an option, if it is there. -/
def text? (key : String) : Option String := (settings.option? key).bind Toml.Value.text?

/-- The texts of an option, if it is there. -/
def texts? (key : String) : Option (List String) := (settings.option? key).bind Toml.Value.texts?

/-- The section has known options only, and each has a value of its kind. -/
structure Suits (options : List OptionSpec) : Prop where
  /-- every key is known -/
  known : ∀ key ∈ settings.keys, key ∈ options.map (·.key)
  /-- every option fits -/
  fits : ∀ option ∈ options, option.Fits settings

/-- The error for which a rule refuses the section. -/
inductive Refusal (rule : String) (options : List OptionSpec) : SettingsError → Prop where
  /-- there are unknown keys, and this is the least of them in the order of bytes -/
  | unknownKey {key : String} :
    key ∈ settings.keys → key ∉ options.map (·.key) →
    (∀ other ∈ settings.keys, other ∉ options.map (·.key) → Text.bytes key ≤ Text.bytes other) →
    Refusal rule options (.unknownOption rule key)
  /-- all keys are known, and this is the first option that does not fit -/
  | malformed {before after : List OptionSpec} {option : OptionSpec} {value : Toml.Value}
      {error : SettingsError} :
    (∀ key ∈ settings.keys, key ∈ options.map (·.key)) →
    options = before ++ option :: after → (∀ earlier ∈ before, earlier.Fits settings) →
    settings.option? option.key = some value → ¬ option.kind.Accepts value →
    option.kind.Complaint rule option.key value error →
    Refusal rule options error

/-! ### Unknown keys -/

variable {settings} {rule key : String} {known : List String}

/-- The keys that are checked are those of the section, and no others. -/
theorem mem_optionKeys : key ∈ settings.optionKeys ↔ key ∈ settings.keys :=
  (List.mergeSort_perm _ _).mem_iff

/-- A section that sets known options only is let through. -/
theorem rejectUnknown_of_known (h : ∀ key ∈ settings.keys, key ∈ known) :
    settings.rejectUnknown rule known = .ok () := by
  have hnone : settings.optionKeys.find? (!known.contains ·) = none := by
    refine List.find?_eq_none.2 fun key hkey => ?_
    simpa using h key (mem_optionKeys.1 hkey)
  rw [rejectUnknown, hnone]

/-- **The least unknown key is named**, in the order of bytes. The others are not told of. -/
theorem rejectUnknown_of_unknown (rule : String) (hkey : key ∈ settings.keys)
    (hunknown : key ∉ known) :
    ∃ least, settings.rejectUnknown rule known = .error (.unknownOption rule least) ∧
      least ∈ settings.keys ∧ least ∉ known ∧
      ∀ other ∈ settings.keys, other ∉ known → Text.bytes least ≤ Text.bytes other := by
  have hsome : (settings.optionKeys.find? (!known.contains ·)).isSome :=
    List.find?_isSome.2 ⟨key, mem_optionKeys.2 hkey, by simpa using hunknown⟩
  obtain ⟨least, hfind⟩ := Option.isSome_iff_exists.1 hsome
  have hmem := mem_optionKeys.1 (List.mem_of_find?_eq_some hfind)
  obtain ⟨hleast, before, after, hsplit, hbefore⟩ := List.find?_eq_some_iff_append.1 hfind
  refine ⟨least, by rw [rejectUnknown, hfind], hmem, by simpa using hleast, ?_⟩
  intro other hother hnew
  have hsorted : (before ++ least :: after).Pairwise fun a b => Text.bytes a ≤ Text.bytes b :=
    hsplit ▸ Text.pairwise_bytes_mergeSort _
  rw [← mem_optionKeys, hsplit, List.mem_append, List.mem_cons] at hother
  -- all keys before the least are known
  rcases hother with hother | rfl | hother
  · exact absurd (by simpa using hbefore other hother) hnew
  · exact List.le_refl _
  · exact List.rel_of_pairwise_cons (List.pairwise_append.1 hsorted).2.1 hother

/-! ### Texts -/

/-- A text that is set is taken if it passes, and named in the complaint if not. -/
theorem checkedString_text {accepts : String → Bool} {text : String}
    (h : settings.option? key = some (.string text)) :
    settings.checkedString accepts rule key =
      if accepts text then .ok (some text) else .error (.invalidName rule key text) := by
  rw [checkedString, string, h]
  rfl

/-- **A text that fits is taken**, and none where none is set. -/
theorem checkedString_of_fits (rule : String) {option : OptionSpec}
    (hkind : option.kind ≠ .qualifiedNames) (hfits : option.Fits settings) :
    settings.checkedString option.kind.test rule option.key = .ok (settings.text? option.key) := by
  rcases hvalue : settings.option? option.key with _ | value
  · rw [checkedString, string, text?, hvalue]
    rfl
  · have haccepts : option.kind.Accepts value := hfits value hvalue
    obtain ⟨text, rfl⟩ := OptionKind.exists_text_of_accepts hkind haccepts
    rw [checkedString_text hvalue, if_pos ((OptionKind.test_iff hkind).2 haccepts), text?, hvalue]
    rfl

/-- A value that does not fit is named in the complaint when it is a text. Any other is said to be
of the wrong type. -/
theorem checkedString_of_not_accepts (rule : String) {option : OptionSpec}
    (hkind : option.kind ≠ .qualifiedNames) {value : Toml.Value}
    (hvalue : settings.option? option.key = some value) (hbad : ¬ option.kind.Accepts value) :
    ∃ error, settings.checkedString option.kind.test rule option.key = .error error ∧
      option.kind.Complaint rule option.key value error := by
  by_cases htext : ∃ text, value = .string text
  · obtain ⟨text, rfl⟩ := htext
    refine ⟨_, ?_, .badText hkind hbad⟩
    rw [checkedString_text hvalue, if_neg (mt (OptionKind.test_iff hkind).1 hbad)]
  · have hother : ∀ text, value ≠ .string text := fun text heq => htext ⟨text, heq⟩
    refine ⟨_, ?_, .notText hkind hother⟩
    rw [checkedString, string, hvalue]
    cases value with
    | string text => exact absurd rfl (hother text)
    | _ => rfl

/-! ### Lists of names -/

/-- The names at the front of a list are passed over, so that a complaint is about the first item
that is no name. -/
theorem readNames_append (rule key : String) {names : List String}
    (h : ∀ name ∈ names, Name.Qualified name) (items : List Toml.Value) :
    readNames rule key (names.map .string ++ items) =
      (readNames rule key items).map (names ++ ·) := by
  induction names with
  | nil => rcases hitems : readNames rule key items with _ | _ <;> simp [hitems, Except.map]
  | cons name names ih =>
    obtain ⟨hname, hnames⟩ := List.forall_mem_cons.1 h
    have hok : checkQualifiedName rule key name = .ok () :=
      checkQualifiedName_eq_ok_iff.2 (Name.isQualifiedName_iff.2 hname)
    rw [List.map_cons, List.cons_append, readNames, hok, ih hnames]
    rcases readNames rule key items with _ | _ <;> rfl

/-- **A list of names that fits is taken** with its names in their order. -/
theorem qualifiedNames_of_fits (rule : String) {option : OptionSpec}
    (hkind : option.kind = .qualifiedNames) (hfits : option.Fits settings) :
    settings.qualifiedNames rule option.key = .ok (settings.texts? option.key) := by
  rcases hvalue : settings.option? option.key with _ | value
  · rw [qualifiedNames, texts?, hvalue]
    rfl
  · have haccepts : OptionKind.qualifiedNames.Accepts value := hkind ▸ hfits value hvalue
    cases value with
    | array items =>
      obtain ⟨names, rfl, hnames⟩ := haccepts
      have hread : readNames rule option.key (names.map .string) = .ok names := by
        simpa [readNames, Except.map] using readNames_append rule option.key hnames []
      have htexts : (names.map Toml.Value.string).filterMap Toml.Value.text? = names := by
        simp [List.filterMap_map, Function.comp_def, Toml.Value.text?]
      rw [qualifiedNames, texts?, hvalue]
      simp only [hread, Option.bind_some, Toml.Value.texts?, htexts]
      rfl
    | _ => exact haccepts.elim

/-- A list of which an item is no name is complained about, and so is a value that is no list. -/
theorem qualifiedNames_of_not_accepts {value : Toml.Value}
    (hvalue : settings.option? key = some value)
    (hbad : ¬ OptionKind.qualifiedNames.Accepts value) :
    ∃ error, settings.qualifiedNames rule key = .error error ∧
      OptionKind.qualifiedNames.Complaint rule key value error := by
  by_cases hlist : ∃ items, value = .array items
  · obtain ⟨items, rfl⟩ := hlist
    obtain ⟨names, item, rest, rfl, hnames, hitem⟩ := OptionKind.exists_first_bad_item hbad
    have hread : settings.qualifiedNames rule key =
        ((readNames rule key (item :: rest)).map (names ++ ·)).map some := by
      rw [qualifiedNames, hvalue, ← readNames_append rule key hnames]
    cases item with
    | string text =>
      have hname : ¬ Name.Qualified text := hitem text rfl
      refine ⟨_, ?_, .badItem hnames hname⟩
      rw [hread, readNames, checkQualifiedName, if_neg (mt Name.isQualifiedName_iff.1 hname)]
      rfl
    | _ =>
      refine ⟨_, ?_, .notTextItem hnames (by simp)⟩
      rw [hread]
      rfl
  · have hother : ∀ items, value ≠ .array items := fun items heq => hlist ⟨items, heq⟩
    refine ⟨_, ?_, .notList hother⟩
    rw [qualifiedNames, hvalue]
    cases value with
    | array items => exact absurd rfl (hother items)
    | _ => rfl

end RuleSettings

namespace Setting

variable {ρ : Type} {name : String} {settings : RuleSettings}

/-! ### One option -/

/-- The key of an option and the kind of its value. -/
def spec : Setting ρ → OptionSpec
  | qualifiedName key _ => ⟨key, .qualifiedName⟩
  | qualifiedNames key _ => ⟨key, .qualifiedNames⟩
  | identifier key _ => ⟨key, .identifier⟩
  | modulePath key _ => ⟨key, .modulePath⟩

/-- Sets an option to what the section has for it, if it has anything. -/
def take (settings : RuleSettings) : Setting ρ → ρ → ρ
  | qualifiedName key set => change set (settings.text? key)
  | qualifiedNames key set => change set (settings.texts? key)
  | identifier key set => change set (settings.text? key)
  | modulePath key set => change set (settings.text? key)

@[simp] theorem key_spec (setting : Setting ρ) : setting.spec.key = setting.key := by
  cases setting <;> rfl

/-- An option that takes a text is read by the test of its kind. -/
theorem exists_set_of_text (name : String) {setting : Setting ρ}
    (hkind : setting.spec.kind ≠ .qualifiedNames) :
    ∃ set : String → ρ → ρ, ∀ settings,
      (setting.read name settings = do
        return change set (← settings.checkedString setting.spec.kind.test name setting.spec.key)) ∧
      setting.take settings = change set (settings.text? setting.spec.key) := by
  cases setting with
  | qualifiedNames key set => exact absurd rfl hkind
  | qualifiedName key set => exact ⟨set, fun _ => ⟨rfl, rfl⟩⟩
  | identifier key set => exact ⟨set, fun _ => ⟨rfl, rfl⟩⟩
  | modulePath key set => exact ⟨set, fun _ => ⟨rfl, rfl⟩⟩

/-- An option that takes a list is read as names. -/
theorem exists_set_of_list (name : String) {setting : Setting ρ}
    (hkind : setting.spec.kind = .qualifiedNames) :
    ∃ set : List String → ρ → ρ, ∀ settings,
      (setting.read name settings = do
        return change set (← settings.qualifiedNames name setting.spec.key)) ∧
      setting.take settings = change set (settings.texts? setting.spec.key) := by
  cases setting with
  | qualifiedNames key set => exact ⟨set, fun _ => ⟨rfl, rfl⟩⟩
  | _ => cases hkind

/-- **An option that fits is set.** One that is not there fits, and leaves the rule as it is. -/
theorem read_of_fits {setting : Setting ρ} (h : setting.spec.Fits settings) :
    setting.read name settings = .ok (setting.take settings) := by
  by_cases hkind : setting.spec.kind = .qualifiedNames
  · obtain ⟨set, hset⟩ := exists_set_of_list name hkind
    obtain ⟨hread, htake⟩ := hset settings
    rw [hread, htake, RuleSettings.qualifiedNames_of_fits name hkind h]
    rfl
  · obtain ⟨set, hset⟩ := exists_set_of_text name hkind
    obtain ⟨hread, htake⟩ := hset settings
    rw [hread, htake, RuleSettings.checkedString_of_fits name hkind h]
    rfl

/-- **An option that does not fit is complained about**, under the name of the rule and the key of
the option. -/
theorem read_of_not_accepts (name : String) {setting : Setting ρ} {value : Toml.Value}
    (hvalue : settings.option? setting.spec.key = some value)
    (hbad : ¬ setting.spec.kind.Accepts value) :
    ∃ error, setting.read name settings = .error error ∧
      setting.spec.kind.Complaint name setting.spec.key value error := by
  by_cases hkind : setting.spec.kind = .qualifiedNames
  · obtain ⟨set, hset⟩ := exists_set_of_list name hkind
    rw [hkind] at hbad ⊢
    obtain ⟨error, herror, hcomplaint⟩ := RuleSettings.qualifiedNames_of_not_accepts hvalue hbad
    refine ⟨error, ?_, hcomplaint⟩
    rw [(hset settings).1, herror]
    rfl
  · obtain ⟨set, hset⟩ := exists_set_of_text name hkind
    obtain ⟨error, herror, hcomplaint⟩ :=
      RuleSettings.checkedString_of_not_accepts name hkind hvalue hbad
    refine ⟨error, ?_, hcomplaint⟩
    rw [(hset settings).1, herror]
    rfl

/-! ### All options -/

/-- Sets options one after the other. -/
def takeAll (settings : RuleSettings) (known : List (Setting ρ)) (rule : ρ) : ρ :=
  known.foldl (fun rule setting => setting.take settings rule) rule

/-- When all options fit, all are set and there is no complaint. -/
theorem readAll_of_fits {known : List (Setting ρ)}
    (h : ∀ setting ∈ known, setting.spec.Fits settings) (rule : ρ) :
    readAll name settings known rule = ⟨takeAll settings known rule, none⟩ := by
  induction known generalizing rule with
  | nil => rfl
  | cons setting rest ih =>
    obtain ⟨hsetting, hrest⟩ := List.forall_mem_cons.1 h
    rw [readAll, read_of_fits hsetting]
    exact ih hrest _

/-- **The reading stops at the first option that does not fit.** Those before it are set, and those
behind it are not looked at. -/
theorem readAll_of_not_fits (name : String) {known : List (Setting ρ)}
    (h : ¬ ∀ setting ∈ known, setting.spec.Fits settings) (rule : ρ) :
    ∃ before setting after value error, known = before ++ setting :: after ∧
      (∀ earlier ∈ before, earlier.spec.Fits settings) ∧
      settings.option? setting.spec.key = some value ∧ ¬ setting.spec.kind.Accepts value ∧
      setting.spec.kind.Complaint name setting.spec.key value error ∧
      (readAll name settings known rule).error = some error := by
  induction known generalizing rule with
  | nil => exact absurd (fun _ hmem => absurd hmem List.not_mem_nil) h
  | cons first rest ih =>
    by_cases hfirst : first.spec.Fits settings
    · have hrest : ¬ ∀ setting ∈ rest, setting.spec.Fits settings :=
        fun hrest => h (List.forall_mem_cons.2 ⟨hfirst, hrest⟩)
      obtain ⟨before, setting, after, value, error, rfl, hbefore, hvalue, hbad, hcomplaint,
          herror⟩ := ih hrest (first.take settings rule)
      refine ⟨first :: before, setting, after, value, error, rfl,
        List.forall_mem_cons.2 ⟨hfirst, hbefore⟩, hvalue, hbad, hcomplaint, ?_⟩
      rw [readAll, read_of_fits hfirst]
      exact herror
    · obtain ⟨value, hnot⟩ := not_forall.1 hfirst
      obtain ⟨hvalue, hbad⟩ := Classical.not_imp.1 hnot
      obtain ⟨error, hread, hcomplaint⟩ := read_of_not_accepts name hvalue hbad
      refine ⟨[], first, rest, value, error, rfl, fun _ hmem => absurd hmem List.not_mem_nil,
        hvalue, hbad, hcomplaint, ?_⟩
      rw [readAll, hread]

theorem map_key_spec (known : List (Setting ρ)) :
    (known.map spec).map (·.key) = known.map key := by
  rw [List.map_map]
  exact List.map_congr_left fun setting _ => key_spec setting

/-- **A section that suits a rule is taken**: it sets known options only, and all of them fit. -/
theorem configure_of_suits {known : List (Setting ρ)} (h : settings.Suits (known.map spec))
    (rule : ρ) :
    configure name known settings rule = ⟨takeAll settings known rule, none⟩ := by
  have hknown := map_key_spec known ▸ h.known
  rw [configure, RuleSettings.rejectUnknown_of_known hknown]
  exact readAll_of_fits (fun setting hsetting => h.fits _ (List.mem_map_of_mem hsetting)) rule

/-- **Any other section is refused**, with the complaint about an unknown option if there is one,
else the one about the first option that does not fit. -/
theorem configure_of_not_suits (name : String) {known : List (Setting ρ)}
    (h : ¬ settings.Suits (known.map spec)) (rule : ρ) :
    ∃ error, (configure name known settings rule).error = some error ∧
      settings.Refusal name (known.map spec) error := by
  by_cases hknown : ∀ key ∈ settings.keys, key ∈ (known.map spec).map (·.key)
  · have hnot : ¬ ∀ setting ∈ known, setting.spec.Fits settings :=
      fun hfits => h ⟨hknown, List.forall_mem_map.2 hfits⟩
    obtain ⟨before, setting, after, value, error, rfl, hbefore, hvalue, hbad, hcomplaint, herror⟩ :=
      readAll_of_not_fits name hnot rule
    refine ⟨error, ?_, .malformed hknown (List.map_append ..) (List.forall_mem_map.2 hbefore)
      hvalue hbad hcomplaint⟩
    rw [configure, RuleSettings.rejectUnknown_of_known (map_key_spec _ ▸ hknown)]
    exact herror
  · obtain ⟨key, hnot⟩ := not_forall.1 hknown
    obtain ⟨hkey, hunknown⟩ := Classical.not_imp.1 hnot
    obtain ⟨least, hreject, hmem, hnew, hleast⟩ :=
      RuleSettings.rejectUnknown_of_unknown name hkey hunknown
    refine ⟨_, ?_, .unknownKey hmem hnew hleast⟩
    rw [configure, ← map_key_spec, hreject]

end Setting

end DeclLint
