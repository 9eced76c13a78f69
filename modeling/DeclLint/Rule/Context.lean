import DeclLint.Finding.Violation
import DeclLint.Symbol.Oracle

/-!
# What a rule sees

A rule looks at one node of one unit at a time, and asks the oracle about everything else.

`UnitContext.indentOf` gives the white space at the beginning of the line a range starts on, taken
from the text of the unit; without the text it is one space for each column before the range. Memory
is taken as unbounded, so these spaces are there whatever column is on record.
-/

namespace DeclLint

/-- The kinds of nodes rules can ask for. -/
inductive NodeKind where
  /-- declarations -/
  | declaration
  /-- methods -/
  | method
  /-- calls -/
  | call
deriving DecidableEq, Repr, Inhabited

/-- The word for a kind of node. -/
def NodeKind.word : NodeKind → String
  | declaration => "declaration"
  | method => "method"
  | call => "call"

/-- A node shown to rules. -/
inductive Node where
  /-- a declaration -/
  | declaration (declaration : Declaration)
  /-- a method, with the declaration it belongs to -/
  | method (owner : Declaration) (member : Member)
  /-- a call, with the declaration it stands in -/
  | call (owner : Declaration) (call : Call)

/-- The kind of a node. -/
def Node.kind : Node → NodeKind
  | declaration _ => .declaration
  | method .. => .method
  | call .. => .call

/-- The unit a rule looks at, and the oracle. -/
structure UnitContext where
  /-- the unit -/
  unit : CompilationUnit
  /-- the oracle -/
  oracle : Oracle

namespace UnitContext

/-- The place of the first range that is known, or line 0 of the unit when none is. -/
def location (context : UnitContext) (ranges : List (Option Range)) : Location :=
  match ranges.findSome? id with
  | some range => .ofRange context.unit.path range
  | none => .ofLine context.unit.path 0 0

/-- The characters of a line that begins the last line of `before` and goes on with `after`. -/
def lastLine (before after : List Char) : List Char :=
  (before.reverse.takeWhile (· != '\n')).reverse ++ after

/-- The white space at the beginning of the line a range starts on. -/
def indentOf (context : UnitContext) (range : Range) : String :=
  match context.unit.source.bind (Text.splitAtByte range.start.offset ·.toList) with
  | some (before, after) =>
    String.ofList ((lastLine before after).takeWhile fun c => c == ' ' || c == '\t')
  | none => String.ofList (List.replicate (range.start.column - 1) ' ')

/-- A violation in the unit. -/
def violation (context : UnitContext) (code rule : String) (severity : Severity)
    (ranges : List (Option Range)) (message : String) : Violation where
  code := code
  rule := rule
  severity := severity
  location := context.location ranges
  message := message

/-- A short text that tells contexts apart. -/
def debugText (context : UnitContext) : String :=
  "UnitContext \x7b unit: " ++ context.unit.path.debugText ++ ", .. \x7d"

end UnitContext

end DeclLint
