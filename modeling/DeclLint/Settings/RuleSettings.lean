import DeclLint.Finding.Severity
import DeclLint.Name
import DeclLint.Settings.Error
import DeclLint.Text.Blank
import DeclLint.Toml.DatetimeTable

/-!
# The section of a rule

A rule's section of the configuration switches the rule on or off, overrides the severity of its
findings and holds the rule's own options. An option is read by the kind of value it takes; an
option that is not there leaves things as they are.

* `RuleSettings.rejectUnknown` — the least option key, in the order of texts, that a rule does not
  know;
* `RuleSettings.qualifiedName`, `qualifiedNames`, `identifier`, `modulePath` — the kinds of options.
-/

namespace DeclLint

/-- The section of one rule. -/
structure RuleSettings where
  /-- whether the rule runs; it does unless this says otherwise -/
  enabled : Option Bool := none
  /-- the severity its findings get in place of their own -/
  severity : Option Severity := none
  /-- the options by key; the first of a key counts -/
  options : List (String × Toml.Value) := []
deriving Inhabited

/-- Checks that a text is a qualified name. -/
def checkQualifiedName (rule key value : String) : Except SettingsError Unit :=
  if isQualifiedName value then .ok () else .error (.invalidName rule key value)

namespace RuleSettings

/-- The value of an option. -/
def option? (settings : RuleSettings) (key : String) : Option Toml.Value :=
  settings.options.lookup key

/-- The option keys in ascending order. -/
def optionKeys (settings : RuleSettings) : List String :=
  (settings.options.map (·.1)).mergeSort (· ≤ ·)

/-- Fails at the first option key that is not among the known ones. -/
def rejectUnknown (settings : RuleSettings) (rule : String) (known : List String) :
    Except SettingsError Unit :=
  match settings.optionKeys.find? (!known.contains ·) with
  | some key => .error (.unknownOption rule key)
  | none => .ok ()

/-- Reads an option that takes a text. The message shows another value as it is written in a
document, but a date-time as the table that stands for it. -/
def string (settings : RuleSettings) (rule key : String) : Except SettingsError (Option String) :=
  match settings.option? key with
  | none => .ok none
  | some (.string text) => .ok (some text)
  | some other =>
    .error (.invalidOption rule key
      ("expected a string, found `" ++ other.datetimeAsTable.display ++ "`"))

/-- Reads an option that takes a text with some property. -/
def checkedString (settings : RuleSettings) (accepts : String → Bool) (rule key : String) :
    Except SettingsError (Option String) := do
  match ← settings.string rule key with
  | none => return none
  | some text => if accepts text then return some text else throw (.invalidName rule key text)

/-- Reads an option that takes a qualified name. -/
def qualifiedName (settings : RuleSettings) (rule key : String) :
    Except SettingsError (Option String) :=
  settings.checkedString isQualifiedName rule key

/-- Reads an option that takes an identifier. -/
def identifier (settings : RuleSettings) (rule key : String) :
    Except SettingsError (Option String) :=
  settings.checkedString isIdentifier rule key

/-- Reads an option that takes the path of a module, which must not be blank. -/
def modulePath (settings : RuleSettings) (rule key : String) :
    Except SettingsError (Option String) :=
  settings.checkedString (!Text.isBlank ·) rule key

/-- Reads the items of a list of qualified names. -/
def readNames (rule key : String) : List Toml.Value → Except SettingsError (List String)
  | [] => .ok []
  | .string name :: rest => do
    checkQualifiedName rule key name
    return name :: (← readNames rule key rest)
  | _ :: _ => .error (.invalidOption rule key "expected an array of strings")

/-- Reads an option that takes a list of qualified names. -/
def qualifiedNames (settings : RuleSettings) (rule key : String) :
    Except SettingsError (Option (List String)) :=
  match settings.option? key with
  | none => .ok none
  | some (.array items) => (readNames rule key items).map some
  | some _ => .error (.invalidOption rule key "expected an array of strings")

end RuleSettings

end DeclLint
