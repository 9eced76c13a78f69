import DeclLint.Settings.RuleSettings

/-!
# The options of a rule

A rule lists its options once, as `Setting`s: a key, the kind of value, and how the value changes
the rule. The list says everything about configuring the rule: which keys are known, what values
they take and in which order they are read.

`Setting.configure` refuses a section with an unknown key, then reads the options in order and stops
at the first one that is malformed. What was set before stays set.
-/

namespace DeclLint

/-- One option of a rule of type `ρ`. -/
inductive Setting (ρ : Type) where
  /-- takes a qualified name -/
  | qualifiedName (key : String) (set : String → ρ → ρ)
  /-- takes a list of qualified names -/
  | qualifiedNames (key : String) (set : List String → ρ → ρ)
  /-- takes an identifier -/
  | identifier (key : String) (set : String → ρ → ρ)
  /-- takes the path of a module -/
  | modulePath (key : String) (set : String → ρ → ρ)

/-- A rule after an attempt to configure it. -/
structure Configured (ρ : Type) where
  /-- the rule as it is now -/
  rule : ρ
  /-- why the attempt failed, if it did -/
  error : Option SettingsError

namespace Setting

variable {ρ : Type}

/-- The key of an option. -/
def key : Setting ρ → String
  | qualifiedName key _ => key
  | qualifiedNames key _ => key
  | identifier key _ => key
  | modulePath key _ => key

/-- Sets what is there. -/
def change {α : Type} (set : α → ρ → ρ) : Option α → ρ → ρ
  | none, rule => rule
  | some value, rule => set value rule

/-- What an option changes in a rule named `name`; nothing if the option is not there. -/
def read (name : String) (settings : RuleSettings) : Setting ρ → Except SettingsError (ρ → ρ)
  | qualifiedName key set => do return change set (← settings.qualifiedName name key)
  | qualifiedNames key set => do return change set (← settings.qualifiedNames name key)
  | identifier key set => do return change set (← settings.identifier name key)
  | modulePath key set => do return change set (← settings.modulePath name key)

/-- Reads options one after the other. -/
def readAll (name : String) (settings : RuleSettings) : List (Setting ρ) → ρ → Configured ρ
  | [], rule => { rule, error := none }
  | setting :: rest, rule =>
    match setting.read name settings with
    | .ok change => readAll name settings rest (change rule)
    | .error error => { rule, error := some error }

/-- Configures a rule by its list of options. -/
def configure (name : String) (known : List (Setting ρ)) (settings : RuleSettings) (rule : ρ) :
    Configured ρ :=
  match settings.rejectUnknown name (known.map key) with
  | .ok () => readAll name settings known rule
  | .error error => { rule, error := some error }

end Setting

end DeclLint
