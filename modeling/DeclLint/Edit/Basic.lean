import DeclLint.Text.Position

/-!
# Edits and fixes

A `TextEdit` replaces a stretch of bytes of a text; a `Fix` is a titled set of edits of one text.
All offsets refer to the text before any edit is made, so no edit shifts another.

`Fix.validate` accepts a fix when no edit is inverted and, in order of position, no edit begins
before its predecessor ends. Edits that touch, and insertions at one point, do not overlap.
-/

namespace DeclLint

/-- Why a fix cannot be applied. -/
inductive EditError where
  /-- two edits cover a common stretch -/
  | overlap (firstStart firstStop secondStart secondStop : Nat)
  /-- an edit ends before it starts -/
  | inverted (start stop : Nat)
  /-- an edit reaches past the end of a text of `length` bytes -/
  | outOfBounds (offset length : Nat)
  /-- an edit begins or ends inside a character -/
  | notCharBoundary (offset : Nat)
deriving DecidableEq, Repr

namespace EditError

/-- The wording of an error. -/
def message : EditError → String
  | overlap a b c d => s!"edits overlap: [{a}, {b}) and [{c}, {d})"
  | inverted start stop => s!"edit [{start}, {stop}) is inverted"
  | outOfBounds offset length =>
    s!"edit end {offset} is past the end of the text ({length} bytes)"
  | notCharBoundary offset => s!"offset {offset} is not on a character boundary"

end EditError

/-- Replaces the bytes from `start` up to `stop`. -/
structure TextEdit where
  /-- the offset of the first byte replaced -/
  start : Nat
  /-- the offset just after the last byte replaced -/
  stop : Nat
  /-- the text put there -/
  replacement : String
deriving DecidableEq, Repr, Inhabited

namespace TextEdit

/-- Puts `text` at `offset` and removes nothing. -/
def insert (offset : Nat) (text : String) : TextEdit := ⟨offset, offset, text⟩

/-- Replaces the text a range covers. -/
def replace (range : Range) (text : String) : TextEdit :=
  ⟨range.start.offset, range.stop.offset, text⟩

/-- Whether the edit removes nothing. -/
def isInsertion (edit : TextEdit) : Bool := edit.start == edit.stop

/-- Edits are ordered by start, then by end. -/
def le (a b : TextEdit) : Bool := a.start < b.start || (a.start == b.start && a.stop ≤ b.stop)

end TextEdit

/-- A titled set of edits of one text. -/
structure Fix where
  /-- what the fix does, in a few words -/
  title : String
  /-- the edits -/
  edits : List TextEdit
deriving DecidableEq, Repr, Inhabited

namespace Fix

/-- A fix without edits. -/
def empty (title : String) : Fix := ⟨title, []⟩

/-- Adds an edit. -/
def withEdit (fix : Fix) (edit : TextEdit) : Fix := { fix with edits := fix.edits ++ [edit] }

/-- A fix made of one insertion. -/
def insertion (title : String) (offset : Nat) (text : String) : Fix :=
  (empty title).withEdit (.insert offset text)

/-- A fix made of one replacement. -/
def replacement (title : String) (range : Range) (text : String) : Fix :=
  (empty title).withEdit (.replace range text)

/-- The edits by position; edits of the same stretch stay in the order in which they were added. -/
def sortedEdits (fix : Fix) : List TextEdit := fix.edits.mergeSort TextEdit.le

/-- Checks edits in order of position, each against the one before it. -/
def validateAfter : Option TextEdit → List TextEdit → Except EditError Unit
  | _, [] => .ok ()
  | previous, edit :: rest =>
    if edit.stop < edit.start then
      .error (.inverted edit.start edit.stop)
    else
      match previous with
      | none => validateAfter (some edit) rest
      | some before =>
        if edit.start < before.stop then
          .error (.overlap before.start before.stop edit.start edit.stop)
        else
          validateAfter (some edit) rest

/-- Checks that no edit is inverted and no two edits overlap. -/
def validate (fix : Fix) : Except EditError Unit := validateAfter none fix.sortedEdits

end Fix

end DeclLint
