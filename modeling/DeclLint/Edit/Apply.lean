import DeclLint.Edit.Basic
import DeclLint.Text.Bytes

/-!
# Applying a fix

`Fix.apply` makes all edits of a fix in one pass over the text. It copies what stands before each
edit, puts the replacement in place of what the edit covers and goes on behind it.
-/

namespace DeclLint

namespace Fix

/-- Makes the edits, given in order of position, in the part of a text of `length` bytes that begins
at `cursor`. -/
def splice (length : Nat) : (cursor : Nat) → (rest : List Char) → List TextEdit →
    Except EditError (List Char)
  | _, rest, [] => .ok rest
  | cursor, rest, edit :: edits =>
    if length < edit.stop then
      .error (.outOfBounds edit.stop length)
    else
      match Text.splitAtByte (edit.start - cursor) rest with
      | none => .error (.notCharBoundary edit.start)
      | some (kept, covered) =>
        match Text.splitAtByte (edit.stop - edit.start) covered with
        | none => .error (.notCharBoundary edit.stop)
        | some (_, behind) => do
          let output ← splice length edit.stop behind edits
          return kept ++ edit.replacement.toList ++ output

/-- The text after the fix. The fix has to be valid, and its edits have to begin and end between
characters of the text. -/
def apply (fix : Fix) (source : String) : Except EditError String := do
  fix.validate
  let chars := source.toList
  let output ← splice (Text.byteCount chars) 0 chars fix.sortedEdits
  return String.ofList output

end Fix

end DeclLint
