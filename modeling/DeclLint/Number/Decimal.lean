import DeclLint.Number.Binary64

/-!
# Decimal text of numbers

Two ways to write a double with its shortest digits:

* `Binary64.positional` — never an exponent, and whole numbers end in `.0`;
* `Binary64.compact` — the same from `0.0001` up to below `10 ^ 16`, and outside that an exponent.
-/

namespace DeclLint

namespace Decimal

/-- A number of zeros. -/
def zeros (count : Nat) : String := String.ofList (List.replicate count '0')

/-- Writes `digits * 10 ^ exponent` without an exponent, with at least one place after the point. -/
def positional (digits : Nat) (exponent : Int) : String :=
  let text := Nat.toDigits 10 digits
  let point := text.length + exponent
  if 0 ≤ exponent then String.ofList text ++ zeros exponent.toNat ++ ".0"
  else if 0 < point then
    String.ofList (text.take point.toNat) ++ "." ++ String.ofList (text.drop point.toNat)
  else "0." ++ zeros (-point).toNat ++ String.ofList text

/-- Writes `digits * 10 ^ exponent` with one digit before the point and an exponent. -/
def scientific (digits : Nat) (exponent : Int) : String :=
  let text := Nat.toDigits 10 digits
  let power := text.length + exponent - 1
  let fraction := text.drop 1
  String.ofList (text.take 1) ++
    (if fraction = [] then "" else "." ++ String.ofList fraction) ++ s!"e{power}"

end Decimal

namespace Binary64

/-- The sign of a negative number. -/
def sign (negative : Bool) : String := if negative then "-" else ""

/-- The number without an exponent; whole numbers end in `.0`. -/
def positional : Binary64 → String
  | finite negative mantissa exponent =>
    let (digits, power) := shortest mantissa exponent
    sign negative ++ Decimal.positional digits power
  | infinite negative => sign negative ++ "inf"
  | nan negative => sign negative ++ "nan"

/-- The number with an exponent where it is less than `10 ^ -4` or at least `10 ^ 16`. -/
def compact : Binary64 → String
  | finite negative mantissa exponent =>
    let (digits, power) := shortest mantissa exponent
    let point := digitCount digits + power
    sign negative ++
      if digits ≠ 0 ∧ (point ≤ -4 ∨ 17 ≤ point) then Decimal.scientific digits power
      else Decimal.positional digits power
  | infinite negative => sign negative ++ "inf"
  | nan _ => "NaN"

end Binary64

end DeclLint
