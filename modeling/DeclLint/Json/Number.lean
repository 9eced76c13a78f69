import DeclLint.Json.Basic

/-!
# Numbers in JSON text

A whole number is one written without point and exponent that fits 64 bits, signed or unsigned; all
others are doubles. A double is read in two steps, each of which rounds: as many digits as fit 64
bits are collected into a whole number, and this is multiplied or divided by a power of ten. So a
long number may come out as a neighbour of the double nearest to it. A number beyond the doubles is
refused.

* `Scientific` — the collected digits with the power of ten that belongs to them;
* `Scientific.toBinary64?` — its double;
* `Json.readNumber` — reads a number off the front of a text.
-/

namespace DeclLint

/-- The number `digits * 10 ^ exponent`. -/
structure Scientific where
  /-- the digits collected -/
  digits : Nat
  /-- the power of ten -/
  exponent : Int
deriving DecidableEq, Repr, Inhabited

namespace Scientific

/-- The value of a decimal digit. -/
def digitValue (c : Char) : Nat := c.toNat - '0'.toNat

/-- The digits with one more behind them, if these fit 64 bits. -/
def append? (digits : Nat) (c : Char) : Option Nat :=
  let longer := digits * 10 + digitValue c
  if longer < Nat.pow 2 64 then some longer else none

/-- The number written by digits without a point. From the first digit that does not fit on, the
digits only count as places. -/
def ofWhole (digits : Nat) : List Char → Scientific
  | [] => ⟨digits, 0⟩
  | c :: rest =>
    match append? digits c with
    | some longer => ofWhole longer rest
    | none => ⟨digits, rest.length + 1⟩

/-- The number with the digits of a fraction behind it. From the first digit that does not fit on,
they are dropped. -/
def withFraction (number : Scientific) : List Char → Scientific
  | [] => number
  | c :: rest =>
    match append? number.digits c with
    | some longer => withFraction ⟨longer, number.exponent - 1⟩ rest
    | none => number

/-- The greatest power of ten that is a double. -/
def maxPower : Nat := 308

/-- The double nearest to `10 ^ power`. -/
def tenTo (power : Nat) : Binary64 := .ofRatio false (Nat.pow 10 power) 1

/-- The value as a double: the one nearest to the digits, multiplied or divided by a power of ten.
Two divisions are made if the power is not a double, and after two by the greatest one nothing is
left. -/
def toBinary64? (negative : Bool) (number : Scientific) : Option Binary64 :=
  let value := Binary64.ofRatio negative number.digits 1
  let power := number.exponent.natAbs
  if number.digits = 0 then
    some value
  else if 0 ≤ number.exponent then
    if maxPower < power then
      none
    else
      match value.mul (tenTo power) with
      | .finite negative mantissa exponent => some (.finite negative mantissa exponent)
      | _ => none
  else if power ≤ maxPower then
    some (value.div (tenTo power))
  else
    some ((value.div (tenTo maxPower)).div (tenTo (min (power - maxPower) maxPower)))

end Scientific

namespace Json

/-- The number a list of decimal digits writes. -/
def digitsValue (digits : List Char) : Nat :=
  digits.foldl (fun n c => n * 10 + Scientific.digitValue c) 0

/-- The digits at the beginning. -/
def spanDigits (cs : List Char) : List Char × List Char := cs.span Char.isDigit

/-- The digits after a point, or none if there is no point. -/
def readFraction : List Char → Option (Option (List Char) × List Char)
  | '.' :: cs =>
    match spanDigits cs with
    | ([], _) => none
    | (digits, rest) => some (some digits, rest)
  | cs => some (none, cs)

/-- The exponent, or none if there is none. -/
def readExponent : List Char → Option (Option Int × List Char)
  | c :: cs =>
    if c = 'e' ∨ c = 'E' then
      let (negative, cs) := match cs with
        | '-' :: rest => (true, rest)
        | '+' :: rest => (false, rest)
        | _ => (false, cs)
      match spanDigits cs with
      | ([], _) => none
      | (digits, rest) =>
        let value : Int := digitsValue digits
        some (some (if negative then -value else value), rest)
    else
      some (none, c :: cs)
  | [] => some (none, [])

/-- The value of a number written without point and exponent: a double if it does not fit 64 bits,
or is a negative zero. -/
def wholeNumber? (negative : Bool) (number : Scientific) : Option Json :=
  let n := number.digits
  if number.exponent = 0 ∧ negative ∧ 0 < n ∧ n ≤ Nat.pow 2 63 then some (int (-(n : Int)))
  else if number.exponent = 0 ∧ !negative then some (int n)
  else (number.toBinary64? negative).map float

/-- Reads a number. -/
def readNumber (cs : List Char) : Option (Json × List Char) := do
  let (negative, cs) := match cs with
    | '-' :: rest => (true, rest)
    | _ => (false, cs)
  let (whole, cs) := spanDigits cs
  if whole = [] ∨ (1 < whole.length ∧ whole.head? = some '0') then none
  let (fraction, cs) ← readFraction cs
  let (exponent, cs) ← readExponent cs
  let number := Scientific.ofWhole 0 whole
  match fraction, exponent with
  | none, none => return (← wholeNumber? negative number, cs)
  | _, _ =>
    let number := number.withFraction (fraction.getD [])
    let scaled : Scientific := ⟨number.digits, number.exponent + exponent.getD 0⟩
    return (float (← scaled.toBinary64? negative), cs)

end Json

end DeclLint
