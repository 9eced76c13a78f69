/-!
# Positions and ranges

A `Position` names a place in a text twice: by line and column, both counted from 1, and by byte
offset, counted from 0. A `Range` runs from one position to another. Ranges come from the outside,
so nothing is assumed about their order.
-/

namespace DeclLint

/-- A place in a text. -/
structure Position where
  /-- the line, counted from 1 -/
  line : Nat
  /-- the column in bytes, counted from 1 -/
  column : Nat
  /-- the byte offset, counted from 0 -/
  offset : Nat
deriving DecidableEq, Ord, Repr, Inhabited

/-- Positions are compared by line, then by column, then by offset. -/
instance : LE Position := leOfOrd

/-- The order of positions, field by field. -/
theorem Position.le_iff {p q : Position} :
    p ≤ q ↔ p.line < q.line ∨ p.line = q.line ∧
      (p.column < q.column ∨ p.column = q.column ∧ p.offset ≤ q.offset) := by
  change (instOrdPosition.ord p q).isLE = true ↔ _
  simp only [instOrdPosition.ord, Ordering.isLE_then_iff_or, Ordering.then_eq, Nat.compare_eq_lt,
    Nat.compare_eq_eq, Nat.isLE_compare]

/-- A stretch of a text. -/
structure Range where
  /-- where the range begins -/
  start : Position
  /-- the place just after the range -/
  stop : Position
deriving DecidableEq, Repr, Inhabited

namespace Range

/-- Whether the range begins and ends on the same line. -/
def isSingleLine (range : Range) : Bool := range.start.line == range.stop.line

/-- The length in bytes; an inverted range has length 0. -/
def length (range : Range) : Nat := range.stop.offset - range.start.offset

/-- Whether the range covers no byte. -/
def isEmpty (range : Range) : Bool := range.length == 0

end Range

end DeclLint
