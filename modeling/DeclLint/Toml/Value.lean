import DeclLint.Number.Decimal
import DeclLint.Toml.Datetime

/-!
# TOML values

The values of a configuration file, and their text. `Value.display` writes a value on one line where
it can: tables inline, strings in the plainest quotes that need no escapes.

The entries of a table are written in the order of their keys.
-/

namespace DeclLint

namespace Toml

/-- A TOML value. -/
inductive Value where
  /-- a text -/
  | string (text : String)
  /-- a whole number -/
  | integer (value : Int)
  /-- a number with a point or an exponent -/
  | float (value : Binary64)
  /-- a truth value -/
  | boolean (value : Bool)
  /-- a date, a time or both -/
  | datetime (value : Datetime)
  /-- a list of values -/
  | array (items : List Value)
  /-- named values -/
  | table (entries : List (String × Value))
deriving Inhabited

/-! ### Strings -/

namespace Quoting

/-- The ways to write a string. -/
inductive Style where
  /-- double quotes, with escapes -/
  | basic
  /-- single quotes, without escapes -/
  | literal
  /-- three double quotes, with escapes and newlines -/
  | basicLines
  /-- three single quotes, without escapes but with newlines -/
  | literalLines
deriving DecidableEq, Repr

/-- The longest run of a character. -/
def longestRun (char : Char) (text : List Char) : Nat :=
  (text.foldl (fun (current, longest) c =>
    let current := if c = char then current + 1 else 0
    (current, max current longest)) (0, 0)).2

/-- Whether a character is written as an escape in every style that has them. -/
def isControl (c : Char) : Bool := (c.toNat < 0x20 && c != '\n' && c != '\t') || c.toNat == 0x7F

/-- The plainest style for a text; only the first two where the text has to stay on one line. -/
def style (text : List Char) (oneLine : Bool) : Style :=
  let control := text.any isControl
  let backslash := text.contains '\\'
  let newline := text.contains '\n'
  let double := longestRun '\x22' text
  let single := longestRun '\x27' text
  if !control && !backslash && double == 0 && !newline then .basic
  else if !control && single == 0 && !newline then .literal
  else if oneLine then .basic
  else if !control && !backslash && double ≤ 2 then .basicLines
  else if !control && single ≤ 2 then .literalLines
  else if newline then .basicLines
  else .basic

/-- The quotes of a style. -/
def delimiter : Style → List Char
  | .basic => ['\x22']
  | .literal => ['\x27']
  | .basicLines => ['\x22', '\x22', '\x22']
  | .literalLines => ['\x27', '\x27', '\x27']

/-- A hexadecimal digit. -/
def hexDigit (n : Nat) : Char := if n < 10 then Char.ofNat (48 + n) else Char.ofNat (55 + n)

/-- Writes a text with escapes. In the style of several lines a newline stands for itself, and so
does a double quote unless two others stand right before it; `quotes` counts those. -/
def escape (lines : Bool) : (quotes : Nat) → List Char → List Char
  | _, [] => []
  | quotes, c :: cs =>
    if c = '\x22' then
      if lines && quotes < 2 then c :: escape lines (quotes + 1) cs
      else '\\' :: c :: escape lines 0 cs
    else if c = '\x08' then '\\' :: 'b' :: escape lines 0 cs
    else if c = '\t' then '\\' :: 't' :: escape lines 0 cs
    else if c = '\n' then if lines then c :: escape lines 0 cs else '\\' :: 'n' :: escape lines 0 cs
    else if c = '\x0c' then '\\' :: 'f' :: escape lines 0 cs
    else if c = '\r' then '\\' :: 'r' :: escape lines 0 cs
    else if c = '\\' then '\\' :: '\\' :: escape lines 0 cs
    else if isControl c then
      '\\' :: 'u' :: '0' :: '0' :: hexDigit (c.toNat / 16) :: hexDigit (c.toNat % 16) ::
        escape lines 0 cs
    else c :: escape lines 0 cs

/-- Writes a text in a style. -/
def write (style : Style) (text : List Char) : List Char :=
  let body := match style with
    | .basic => escape false 0 text
    | .basicLines => escape true 0 text
    | .literal | .literalLines => text
  let opening := match style with
    | .basicLines | .literalLines => if text.contains '\n' then ['\n'] else []
    | .basic | .literal => []
  delimiter style ++ opening ++ body ++ delimiter style

/-- A string value. -/
def string (text : String) : String :=
  String.ofList (write (style text.toList false) text.toList)

/-- Whether a character may stand in a key without quotes. -/
def isBareKeyChar (c : Char) : Bool :=
  c.isAlphanum || c == '_' || c == '-'

/-- A key, in quotes only where it needs them. -/
def key (text : String) : String :=
  let cs := text.toList
  if !cs.isEmpty && cs.all isBareKeyChar then text
  else String.ofList (write (style cs true) cs)

end Quoting

/-! ### Values -/

namespace Value

mutual

/-- The text of a value. -/
def display : Value → String
  | string text => Quoting.string text
  | integer value => toString value
  | float (.nan _) => "nan"
  | float value => value.positional
  | boolean value => if value then "true" else "false"
  | datetime value => value.display
  | array items => "[" ++ ", ".intercalate (displayItems items) ++ "]"
  | table [] => "\x7b\x7d"
  | table (entry :: rest) =>
    let entries := (displayEntries (entry :: rest)).mergeSort (·.1 ≤ ·.1)
    "\x7b " ++ ", ".intercalate (entries.map (·.2)) ++ " \x7d"

/-- The texts of the items of an array. -/
def displayItems : List Value → List String
  | [] => []
  | item :: rest => item.display :: displayItems rest

/-- The entries of a table: each key with the text of its entry. -/
def displayEntries : List (String × Value) → List (String × String)
  | [] => []
  | (key, value) :: rest =>
    (key, Quoting.key key ++ " = " ++ value.display) :: displayEntries rest

end

end Value

end Toml

end DeclLint
