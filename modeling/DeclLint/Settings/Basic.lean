import DeclLint.Settings.RuleSettings
import DeclLint.Toml.Document

/-!
# Settings

The whole configuration: a preset and one section for each rule that has one. It is read from a TOML
document; keys outside `preset` and `rules` mean nothing, and whatever does not fit makes the
document no configuration at all.

A date-time and the table that stands for it are the same thing here: a table among the options that
begins with the key of date-times is read as one, and a date-time in place of a section is read as
the section with that one option.
-/

namespace DeclLint

/-- A configuration. -/
structure Settings where
  /-- the preset to use, if one is named -/
  preset : Option String := none
  /-- the sections by rule name; the first of a name counts -/
  rules : List (String × RuleSettings) := []
  /-- the file it was read from -/
  source : Option Path := none
deriving Inhabited

namespace Settings

/-- The usual name of a configuration file. -/
def defaultFile : Path := ⟨"platform-lint.toml"⟩

/-- The section of a rule. -/
def section? (settings : Settings) (rule : String) : Option RuleSettings :=
  settings.rules.lookup rule

/-- Whether a rule runs. -/
def isEnabled (settings : Settings) (rule : String) : Bool :=
  ((settings.section? rule).bind (·.enabled)).getD true

/-- The severity the findings of a rule get, if one is set. -/
def severity? (settings : Settings) (rule : String) : Option Severity :=
  (settings.section? rule).bind (·.severity)

/-- The file findings about the configuration point at. -/
def sourcePath (settings : Settings) : Path := settings.source.getD defaultFile

/-! ### Reading -/

/-- A severity: a word, or a table whose one key is the word and whose value is empty. -/
def readSeverity : Toml.Value → Option Severity
  | .string word => Severity.ofName? word
  | .table [(word, .table [])] => Severity.ofName? word
  | .table [(word, .array [])] => Severity.ofName? word
  | _ => none

/-- Reads the entries of a section: `enabled` and `severity` are typed, all others are options. -/
def readEntries : List (String × Toml.Value) → Option RuleSettings
  | [] => some {}
  | (key, value) :: rest => do
    let settings ← readEntries rest
    match key, value with
    | "enabled", .boolean enabled => return { settings with enabled := some enabled }
    | "enabled", _ => none
    | "severity", value => return { settings with severity := some (← readSeverity value) }
    | key, value =>
      return { settings with options := (key, ← value.withDatetimes?) :: settings.options }

/-- Reads a section. -/
def readSection (value : Toml.Value) : Option RuleSettings :=
  match value.datetimeAsTable with
  | .table entries => readEntries entries
  | _ => none

/-- Reads the sections. -/
def readSections : List (String × Toml.Value) → Option (List (String × RuleSettings))
  | [] => some []
  | (rule, value) :: rest => do
    return (rule, ← readSection value) :: (← readSections rest)

/-- Reads the entries of a document. -/
def ofEntries (entries : List (String × Toml.Value)) : Option Settings := do
  let preset ← match entries.lookup "preset" with
    | none => some none
    | some (.string name) => some (some name)
    | some _ => none
  let rules ← match entries.lookup "rules" with
    | none => some []
    | some (.table sections) => readSections sections
    | some _ => none
  return { preset, rules }

/-- Reads the text of a configuration. -/
def parse (text : String) : Except SettingsError Settings :=
  match (Toml.Document.parse text).bind ofEntries with
  | some settings => .ok settings
  | none => .error (.parse "not a configuration")

/-- Reads a configuration file, given what the file holds if it exists. -/
def ofFile (path : Path) (contents : Option ByteArray) : Except SettingsError Settings := do
  match contents with
  | none => throw (.file path .notFound)
  | some bytes =>
    match String.fromUTF8? bytes with
    | none => throw (.file path .notText)
    | some text =>
      let settings ← parse text
      return { settings with source := some path }

end Settings

end DeclLint
