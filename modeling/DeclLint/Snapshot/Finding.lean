import DeclLint.Finding.Result
import DeclLint.Snapshot.Leaf

/-!
# Snapshots of fixes and findings

The labels of a violation are left out of its snapshot when there are none; every other field is
written.
-/

namespace DeclLint

namespace TextEdit

/-- The snapshot of an edit. -/
def toJson (edit : TextEdit) : Json := .object [
  ("start", .nat edit.start), ("end", .nat edit.stop), ("replacement", .string edit.replacement)]

/-- Reads an edit. -/
def ofJson? (json : Json) : Option TextEdit := do
  let record ← json.record? ["start", "end", "replacement"] 3
  let start ← record.required "start" fun json _ => json.word?
  let stop ← record.required "end" fun json _ => json.word?
  let replacement ← record.required "replacement" fun json _ => json.string?
  return { start, stop, replacement }

end TextEdit

namespace Fix

/-- The snapshot of a fix. -/
def toJson (fix : Fix) : Json := .object [
  ("title", .string fix.title), ("edits", .ofList TextEdit.toJson fix.edits)]

/-- Reads a fix. -/
def ofJson? (json : Json) : Option Fix := do
  let record ← json.record? ["title", "edits"] 2
  let title ← record.required "title" fun json _ => json.string?
  let edits ← record.required "edits" fun json _ => json.list? fun json _ => TextEdit.ofJson? json
  return { title, edits }

end Fix

namespace Severity

/-- The snapshot of a severity. -/
def toJson (severity : Severity) : Json := .string severity.display

/-- Reads a severity. -/
def ofJson? (json : Json) : Option Severity := json.oneOf? ofName?

end Severity

namespace Location

/-- The snapshot of a location. -/
def toJson (location : Location) : Json := .object [
  ("file", .string location.file.text),
  ("line", .nat location.line),
  ("column", .nat location.column),
  ("offset", .nat location.offset),
  ("length", .nat location.length)]

/-- Reads a location. -/
def ofJson? (json : Json) : Option Location := do
  let record ← json.record? ["file", "line", "column", "offset", "length"] 5
  let file ← record.required "file" fun json _ => json.string?
  let line ← record.required "line" fun json _ => json.word?
  let column ← record.required "column" fun json _ => json.word?
  let offset ← record.required "offset" fun json _ => json.word?
  let length ← record.required "length" fun json _ => json.word?
  return { file := ⟨file⟩, line, column, offset, length }

end Location

namespace Label

/-- The snapshot of a label. -/
def toJson (label : Label) : Json := .object [
  ("location", label.location.toJson), ("message", .string label.message)]

/-- Reads a label. -/
def ofJson? (json : Json) : Option Label := do
  let record ← json.record? ["location", "message"] 2
  let location ← record.required "location" fun json _ => Location.ofJson? json
  let message ← record.required "message" fun json _ => json.string?
  return { location, message }

end Label

namespace Suggestion

/-- The snapshot of a suggestion. -/
def toJson (suggestion : Suggestion) : Json := .object [
  ("message", .string suggestion.message), ("fix", .ofOption Fix.toJson suggestion.fix)]

/-- Reads a suggestion. -/
def ofJson? (json : Json) : Option Suggestion := do
  let record ← json.record? ["message", "fix"] 2
  let message ← record.required "message" fun json _ => json.string?
  let fix ← record.optional "fix" fun json _ => Fix.ofJson? json
  return { message, fix }

end Suggestion

namespace Violation

/-- The snapshot of a violation. -/
def toJson (violation : Violation) : Json := .object (
  [("code", .string violation.code),
    ("rule", .string violation.rule),
    ("severity", violation.severity.toJson),
    ("location", violation.location.toJson),
    ("message", .string violation.message),
    ("suggestion", .ofOption Suggestion.toJson violation.suggestion)] ++
  if violation.labels.isEmpty then [] else [("labels", .ofList Label.toJson violation.labels)])

/-- Reads a violation. -/
def ofJson? (json : Json) : Option Violation := do
  let record ← json.record?
    ["code", "rule", "severity", "location", "message", "suggestion", "labels"] 6
  let code ← record.required "code" fun json _ => json.string?
  let rule ← record.required "rule" fun json _ => json.string?
  let severity ← record.required "severity" fun json _ => Severity.ofJson? json
  let location ← record.required "location" fun json _ => Location.ofJson? json
  let message ← record.required "message" fun json _ => json.string?
  let suggestion ← record.optional "suggestion" fun json _ => Suggestion.ofJson? json
  let labels ← record.listD "labels" fun json _ => Label.ofJson? json
  return { code, rule, severity, location, message, suggestion, labels }

end Violation

namespace LintResult

/-- The snapshot of a result. -/
def toJson (result : LintResult) : Json := .object [
  ("violations", .ofList Violation.toJson result.violations),
  ("units_checked", .nat result.unitsChecked)]

/-- Reads a result. -/
def ofJson? (json : Json) : Option LintResult := do
  let record ← json.record? ["violations", "units_checked"] 2
  let violations ← record.required "violations" fun json _ =>
    json.list? fun json _ => Violation.ofJson? json
  let unitsChecked ← record.required "units_checked" fun json _ => json.word?
  return { violations, unitsChecked }

end LintResult

/-- The snapshot of a diagnostic. -/
def Diagnostic.toJson (diagnostic : Diagnostic) : Json := .object [
  ("message", .string diagnostic.message),
  ("help", .ofOption .string diagnostic.help),
  ("labels", .array [.object [
    ("label", .string diagnostic.label),
    ("offset", .nat diagnostic.offset),
    ("length", .nat diagnostic.length)]])]

/-- The totals of a result, and its report down to a severity. -/
def LintResult.summary (result : LintResult) (severity : Severity) : Json := .object [
  ("has_errors", .bool result.hasErrors),
  ("counts", .ofList (fun severity => .nat (result.count severity)) [.error, .warning, .info]),
  ("has_violations_at", .bool (result.hasViolationsAt severity)),
  ("report", .string (result.report severity))]

end DeclLint
