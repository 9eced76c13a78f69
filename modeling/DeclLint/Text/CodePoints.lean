/-!
# Sets of code points

A set of code points is a list of closed intervals in ascending order. `CodePoints.contains` stops
at the first interval that begins after the code point it looks for.
-/

namespace DeclLint

/-- Closed intervals of code points, in ascending order. -/
abbrev CodePoints := List (Nat × Nat)

namespace CodePoints

/-- Whether some interval holds the code point. -/
def contains : CodePoints → Nat → Bool
  | [], _ => false
  | (first, last) :: rest, n => if n < first then false else n ≤ last || contains rest n

end CodePoints

end DeclLint
