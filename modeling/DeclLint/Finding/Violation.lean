import DeclLint.Edit.Apply
import DeclLint.Finding.Severity
import DeclLint.Path

/-!
# Violations

A `Violation` says which rule was broken, where, and how it may be mended. Two violations are equal
(`==`) when all their parts are, files being compared as paths.
-/

namespace DeclLint

/-- A place in a file. Line and column are 0 when the place is not known. -/
structure Location where
  /-- the file -/
  file : Path
  /-- the line, counted from 1 -/
  line : Nat
  /-- the column, counted from 1 -/
  column : Nat
  /-- the byte offset -/
  offset : Nat
  /-- the length in bytes -/
  length : Nat
deriving BEq, Repr, Inhabited

namespace Location

/-- The location a range covers. -/
def ofRange (file : Path) (range : Range) : Location where
  file := file
  line := range.start.line
  column := range.start.column
  offset := range.start.offset
  length := range.length

/-- A location given by line and column. -/
def ofLine (file : Path) (line column : Nat) : Location where
  file := file
  line := line
  column := column
  offset := 0
  length := 0

end Location

/-- A remark on some other place that belongs to a violation. -/
structure Label where
  /-- the place -/
  location : Location
  /-- the remark -/
  message : String
deriving BEq, Repr, Inhabited

/-- How a violation may be mended. -/
structure Suggestion where
  /-- the advice in words -/
  message : String
  /-- the edits that carry it out, if they are known -/
  fix : Option Fix := none
deriving BEq, Repr, Inhabited

namespace Suggestion

/-- The suggestion to apply a fix, worded by its title. -/
def ofFix (fix : Fix) : Suggestion where
  message := fix.title
  fix := some fix

end Suggestion

/-- A finding of a rule. -/
structure Violation where
  /-- the code of the finding -/
  code : String
  /-- the name of the rule -/
  rule : String
  /-- how serious it is -/
  severity : Severity
  /-- where it is -/
  location : Location
  /-- what is wrong -/
  message : String
  /-- how it may be mended -/
  suggestion : Option Suggestion := none
  /-- remarks on other places -/
  labels : List Label := []
deriving BEq, Repr, Inhabited

/-- What an editor shows of a violation: a message, advice and one marked span. -/
structure Diagnostic where
  /-- the message, with the code in front -/
  message : String
  /-- the advice, if there is any -/
  help : Option String
  /-- the text at the marked span -/
  label : String
  /-- where the span begins -/
  offset : Nat
  /-- how long it is -/
  length : Nat
deriving DecidableEq, Repr

namespace Violation

/-- Adds a suggestion, in place of any other. -/
def withSuggestion (violation : Violation) (suggestion : Suggestion) : Violation :=
  { violation with suggestion := some suggestion }

/-- Adds a fix as the suggestion, if there is one. -/
def withFix (violation : Violation) : Option Fix → Violation
  | some fix => violation.withSuggestion (.ofFix fix)
  | none => violation

/-- Adds a remark after the others. -/
def addLabel (violation : Violation) (label : Label) : Violation :=
  { violation with labels := violation.labels ++ [label] }

/-- The fix, if there is one. -/
def fix? (violation : Violation) : Option Fix := violation.suggestion.bind (·.fix)

/-- The violation on a few lines. -/
def format (violation : Violation) : String :=
  let location := violation.location
  violation.code ++ " " ++ violation.rule ++ " at " ++ location.file.text ++
    s!":{location.line}:{location.column}\n" ++
    "  " ++ violation.severity.display ++ ": " ++ violation.message ++ "\n" ++
    String.join (violation.labels.map fun label =>
      s!"  --> {label.location.line}:{label.location.column}: {label.message}\n") ++
    match violation.suggestion with
    | some suggestion => "  = help: " ++ suggestion.message ++ "\n"
    | none => ""

/-- The violation on one line. -/
def display (violation : Violation) : String :=
  let location := violation.location
  location.file.text ++ s!":{location.line}:{location.column}: " ++ violation.severity.display ++
    " [" ++ violation.code ++ "] " ++ violation.message

/-- The violation as a diagnostic: the rule's name marks the place. -/
def diagnostic (violation : Violation) : Diagnostic where
  message := "[" ++ violation.code ++ "] " ++ violation.message
  help := violation.suggestion.map (·.message)
  label := violation.rule
  offset := violation.location.offset
  length := violation.location.length

end Violation

end DeclLint
