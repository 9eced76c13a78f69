import DeclLint.Text.Bytes
import DeclLint.Text.Position

/-!
# The line index

A `LineIndex` keeps the byte offset at which each line of a text begins, and the length of the text.
It answers in both directions:

* `LineIndex.position` — the line and column of an offset; offsets past the end are clamped. The
  line is looked up among the offsets at which lines begin (`Lookup.find`);
* `LineIndex.offsetFor` — the offset of a line and column; a column past the end is clamped, a line
  past the end gives the end of the text. The sum of the start and the column may overflow.
-/

namespace DeclLint

/-- What looking a number up in an ascending list comes to. -/
inductive Lookup where
  /-- the number stands at the index -/
  | hit (index : Nat)
  /-- it is missing, and belongs at the index -/
  | miss (index : Nat)
deriving DecidableEq, Repr

namespace Lookup

/-- The same, in a list with one more number in front. -/
def behind : Lookup → Lookup
  | hit index => hit (index + 1)
  | miss index => miss (index + 1)

/-- Looks a number up in an ascending list. In which order numbers are compared makes no difference
to what is found. -/
def find (sought : Nat) : List Nat → Lookup
  | [] => miss 0
  | first :: rest =>
    if first = sought then hit 0
    else if sought < first then miss 0
    else (find sought rest).behind

end Lookup

/-- Where the lines of a text begin. -/
structure LineIndex where
  /-- the offset of each line's first byte, in ascending order -/
  starts : List Nat
  /-- the length of the text in bytes -/
  length : Nat
deriving Repr

namespace LineIndex

/-- The offset just after each newline, when the first character stands at `offset`. -/
def startsAfter : Nat → List Char → List Nat
  | _, [] => []
  | offset, c :: cs =>
    let next := offset + c.utf8Size
    if c = '\n' then next :: startsAfter next cs else startsAfter next cs

/-- The index of a text: the first line begins at 0, every other one after a newline. -/
def ofText (text : String) : LineIndex where
  starts := 0 :: startsAfter 0 text.toList
  length := Text.byteCount text.toList

/-- The number of lines. -/
def lineCount (index : LineIndex) : Nat := index.starts.length

/-- The number of the line of an offset, counted from 0: the line that begins there, or the one
before the place where its beginning would belong. -/
def lineOf : Lookup → Nat
  | .hit index => index
  | .miss index => index - 1

/-- The position of a byte offset. -/
def position (index : LineIndex) (offset : Nat) : Position :=
  let offset := min offset index.length
  let line := lineOf (Lookup.find offset index.starts)
  let start := index.starts[line]?.getD 0
  { line := line + 1, column := offset - start + 1, offset }

/-- The range between two byte offsets. -/
def range (index : LineIndex) (start stop : Nat) : Range where
  start := index.position start
  stop := index.position stop

/-- The byte offset of a line and column, both counted from 1. -/
def offsetFor (index : LineIndex) (line column : Nat) : Except Overflow Nat :=
  match line with
  | 0 => .ok 0
  | before + 1 =>
    match index.starts[before]? with
    | some start => (Text.offsetAdd start (column - 1)).map (min · index.length)
    | none => .ok index.length

end LineIndex

end DeclLint
