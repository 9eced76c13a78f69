import DeclLint.Settings.Basic
import DeclLint.Snapshot.Finding

/-!
# Snapshots of settings

A TOML value knows more kinds than JSON, so its snapshot is a record of one field that names the
kind. In the other direction a plain JSON value stands for a TOML value; null stands for none.

* `Toml.Value.toJson` — the snapshot, with the kind of each value;
* `Toml.Value.ofPlainJson?` — a whole number of 64 bits is an integer, any other number is a float.
-/

namespace DeclLint

namespace Toml.Value

mutual

/-- The snapshot of a value. -/
def toJson : Value → Json
  | .string text => .object [("string", .string text)]
  | .integer value => .object [("integer", .int value)]
  | .float value => .object [("float", .string value.compact)]
  | .boolean value => .object [("boolean", .bool value)]
  | .datetime value => .object [("datetime", .string value.display)]
  | .array items => .object [("array", .array (listToJson items))]
  | .table entries => .object [("table", .object (entriesToJson entries))]

/-- The snapshots of a list of values. -/
def listToJson : List Value → List Json
  | [] => []
  | item :: rest => item.toJson :: listToJson rest

/-- The snapshots of the entries of a table. -/
def entriesToJson : List (String × Value) → List (String × Json)
  | [] => []
  | (key, value) :: rest => (key, value.toJson) :: entriesToJson rest

end

mutual

/-- The value that a plain JSON value stands for. -/
def ofPlainJson? : Json → Option Value
  | .null => none
  | .bool value => some (.boolean value)
  | .string text => some (.string text)
  | .float value => some (.float value)
  | .int value =>
    if value < 2 ^ 63 then some (.integer value) else some (.float (.ofDecimal false value.toNat 0))
  | .array items => (ofPlainList? items).map .array
  | .object fields => (ofPlainFields? fields).map .table

/-- The values that a list of plain JSON values stands for. -/
def ofPlainList? : List Json → Option (List Value)
  | [] => some []
  | item :: rest => do return (← ofPlainJson? item) :: (← ofPlainList? rest)

/-- The entries that the fields of a JSON object stand for. -/
def ofPlainFields? : List (String × Json) → Option (List (String × Value))
  | [] => some []
  | (key, value) :: rest => do return (key, ← ofPlainJson? value) :: (← ofPlainFields? rest)

end

end Toml.Value

/-- The snapshot of a rule's section. -/
def RuleSettings.toJson (settings : RuleSettings) : Json := .object [
  ("enabled", .ofOption .bool settings.enabled),
  ("severity", .ofOption Severity.toJson settings.severity),
  ("options", .object (Toml.Value.entriesToJson settings.options))]

/-- The snapshot of settings. -/
def Settings.toJson (settings : Settings) : Json := .object [
  ("preset", .ofOption .string settings.preset),
  ("source_path", .string settings.sourcePath.text),
  ("rules", .object (settings.rules.map fun (name, rule) => (name, rule.toJson)))]

end DeclLint
