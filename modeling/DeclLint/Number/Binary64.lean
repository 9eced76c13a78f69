/-!
# Double-precision numbers

A `Binary64` is kept as the exact number it stands for: a sign, a whole mantissa below `2 ^ 53` and
a power of two. All arithmetic on the way in and out is on whole numbers.

* `Binary64.ofRatio`, `Binary64.ofDecimal` — the number nearest to a quotient or a decimal, a tie
  going to the even mantissa;
* `Binary64.mul`, `Binary64.div` — the number nearest to the product or quotient of two finite ones;
* `Binary64.shortest` — the fewest decimal digits that read back as the same number, and of those
  the nearest, a tie going up.
-/

namespace DeclLint

/-- A double-precision number. -/
inductive Binary64 where
  /-- the number `mantissa * 2 ^ exponent`, with its sign -/
  | finite (negative : Bool) (mantissa : Nat) (exponent : Int)
  /-- an infinity -/
  | infinite (negative : Bool)
  /-- not a number -/
  | nan (negative : Bool)
deriving DecidableEq, Repr, Inhabited

namespace Binary64

/-- The least exponent. -/
def minExponent : Int := -1074

/-- The greatest exponent. -/
def maxExponent : Int := 971

/-- The quotient rounded to the nearest whole number, a half to the even neighbour. -/
def roundDiv (num den : Nat) : Nat :=
  let quotient := num / den
  let twice := 2 * (num % den)
  if twice < den then quotient
  else if twice = den then quotient + quotient % 2
  else quotient + 1

/-- The quotient `num / (den * 2 ^ exponent)` as a pair of whole numbers. -/
def scale (num den : Nat) (exponent : Int) : Nat × Nat :=
  if 0 ≤ exponent then (num, den * Nat.pow 2 exponent.toNat)
  else (num * Nat.pow 2 (-exponent).toNat, den)

/-- The double nearest to `num / den`. -/
def ofRatio (negative : Bool) (num den : Nat) : Binary64 :=
  if num = 0 then
    finite negative 0 minExponent
  else
    let low : Int := (num.log2 : Int) - den.log2 - 53
    let (lowNum, lowDen) := scale num den low
    let exponent := max minExponent (if lowNum / lowDen < Nat.pow 2 53 then low else low + 1)
    let (scaledNum, scaledDen) := scale num den exponent
    let rounded := roundDiv scaledNum scaledDen
    let (mantissa, exponent) :=
      if rounded = Nat.pow 2 53 then (Nat.pow 2 52, exponent + 1) else (rounded, exponent)
    if maxExponent < exponent then infinite negative else finite negative mantissa exponent

/-- The number of decimal digits. -/
def digitCount (n : Nat) : Nat := (Nat.toDigits 10 n).length

/-- The double nearest to `digits * 10 ^ exponent`. -/
def ofDecimal (negative : Bool) (digits : Nat) (exponent : Int) : Binary64 :=
  let magnitude := exponent + digitCount digits
  if digits = 0 ∨ magnitude < -330 then finite negative 0 minExponent
  else if 310 < magnitude then infinite negative
  else if 0 ≤ exponent then ofRatio negative (digits * Nat.pow 10 exponent.toNat) 1
  else ofRatio negative digits (Nat.pow 10 (-exponent).toNat)

/-! ### Products and quotients -/

/-- The finite number `mantissa * 2 ^ exponent` as a pair of whole numbers. -/
def ratio (mantissa : Nat) (exponent : Int) : Nat × Nat :=
  (mantissa * Nat.pow 2 exponent.toNat, Nat.pow 2 (-exponent).toNat)

/-- The double nearest to a product; not a number unless both factors are finite. -/
def mul : Binary64 → Binary64 → Binary64
  | finite n₁ m₁ e₁, finite n₂ m₂ e₂ =>
    let (num₁, den₁) := ratio m₁ e₁
    let (num₂, den₂) := ratio m₂ e₂
    ofRatio (n₁ != n₂) (num₁ * num₂) (den₁ * den₂)
  | _, _ => nan false

/-- The double nearest to a quotient; not a number unless both are finite and the divisor is not
zero. -/
def div : Binary64 → Binary64 → Binary64
  | finite n₁ m₁ e₁, finite n₂ m₂ e₂ =>
    if m₂ = 0 then
      nan false
    else
      let (num₁, den₁) := ratio m₁ e₁
      let (num₂, den₂) := ratio m₂ e₂
      ofRatio (n₁ != n₂) (num₁ * den₂) (den₁ * num₂)
  | _, _ => nan false

/-! ### Shortest digits -/

/-- The power of ten at or below `num / den`, which is positive. -/
def decimalExponent (num den : Nat) : Int :=
  if den ≤ num then
    (digitCount (num / den) : Int) - 1
  else
    let length := digitCount (den / num)
    if den ≤ num * Nat.pow 10 (length - 1) then 1 - (length : Int) else -(length : Int)

/-- Of the two multiples of `10 ^ exponent` around `num / den`, the nearer one that lies in the
interval between `low / den` and `high / den`; the ends belong to it if `closed`. -/
def nearestMultiple? (num den low high : Nat) (closed : Bool) (exponent : Int) : Option Nat :=
  let up := Nat.pow 10 exponent.toNat
  let down := Nat.pow 10 (-exponent).toNat
  let unit := den * up
  let value := num * down
  let below := value / unit
  let rest := value % unit
  let inside (multiple : Nat) : Bool :=
    let point := multiple * unit
    if closed then low * down ≤ point && point ≤ high * down
    else low * down < point && point < high * down
  match inside below, inside (below + 1) with
  | true, true => some (if 2 * rest < unit then below else below + 1)
  | true, false => some below
  | false, true => some (below + 1)
  | false, false => none

/-- The first hit with at most `more` digits beyond those tried at `exponent`. -/
def firstHit (num den low high : Nat) (closed : Bool) : (more : Nat) → (exponent : Int) → Nat × Int
  | 0, exponent =>
    (num * Nat.pow 10 (-exponent).toNat / (den * Nat.pow 10 exponent.toNat), exponent)
  | more + 1, exponent =>
    match nearestMultiple? num den low high closed exponent with
    | some digits => (digits, exponent)
    | none => firstHit num den low high closed more (exponent - 1)

/-- Moves the zeros at the end of the digits into the exponent. -/
def dropZeros : (limit : Nat) → Nat → Int → Nat × Int
  | 0, digits, exponent => (digits, exponent)
  | limit + 1, digits, exponent =>
    if digits ≠ 0 ∧ digits % 10 = 0 then dropZeros limit (digits / 10) (exponent + 1)
    else (digits, exponent)

/-- The shortest decimal `digits * 10 ^ e` that is nearer to `mantissa * 2 ^ exponent` than to any
other double. -/
def shortest (mantissa : Nat) (exponent : Int) : Nat × Int :=
  if mantissa = 0 then
    (0, 0)
  else
    -- All bounds are in quarters of a unit of the last binary place.
    let up := Nat.pow 2 exponent.toNat
    let den := 4 * Nat.pow 2 (-exponent).toNat
    let below := if mantissa = Nat.pow 2 52 ∧ minExponent < exponent then 1 else 2
    let num := 4 * mantissa * up
    let low := (4 * mantissa - below) * up
    let high := (4 * mantissa + 2) * up
    let (digits, power) :=
      firstHit num den low high (mantissa % 2 == 0) 17 (decimalExponent num den)
    dropZeros 20 digits power

end Binary64

end DeclLint
