import DeclLint.Json.Number

/-!
# Reading JSON text

`Json.parse` reads one value and accepts nothing behind it but white space. Of two fields with one
name the later one counts. Arrays and objects nest to `Json.maxDepth` and no deeper.
-/

namespace DeclLint

namespace Json

/-- The characters between tokens. -/
def isBlank (c : Char) : Bool := c == ' ' || c == '\t' || c == '\n' || c == '\r'

/-- Drops white space. -/
def skipBlank (cs : List Char) : List Char := cs.dropWhile isBlank

/-- The value of a hexadecimal digit. -/
def hexDigit? (c : Char) : Option Nat :=
  if '0' ≤ c ∧ c ≤ '9' then some (c.toNat - '0'.toNat)
  else if 'a' ≤ c ∧ c ≤ 'f' then some (c.toNat - 'a'.toNat + 10)
  else if 'A' ≤ c ∧ c ≤ 'F' then some (c.toNat - 'A'.toNat + 10)
  else none

/-- The number four hexadecimal digits write. -/
def hexQuad? (a b c d : Char) : Option Nat := do
  return (((← hexDigit? a) * 16 + (← hexDigit? b)) * 16 + (← hexDigit? c)) * 16 + (← hexDigit? d)

/-- The character an escape of one letter stands for. -/
def simpleEscape? (c : Char) : Option Char :=
  if c = '\x22' ∨ c = '\\' ∨ c = '/' then some c
  else if c = 'b' then some '\x08'
  else if c = 'f' then some '\x0c'
  else if c = 'n' then some '\n'
  else if c = 'r' then some '\r'
  else if c = 't' then some '\t'
  else none

/-- The character two halves of a surrogate pair stand for. -/
def surrogatePair? (high low : Nat) : Option Char :=
  if 0xD800 ≤ high ∧ high < 0xDC00 ∧ 0xDC00 ≤ low ∧ low < 0xE000 then
    some (Char.ofNat (0x10000 + (high - 0xD800) * 0x400 + (low - 0xDC00)))
  else
    none

/-- The character a code unit outside the surrogates stands for. -/
def plainUnit? (unit : Nat) : Option Char :=
  if 0xD800 ≤ unit ∧ unit < 0xE000 then none else some (Char.ofNat unit)

/-- Reads up to the closing quote. -/
def readString : List Char → Option (List Char × List Char)
  | [] => none
  | '\\' :: 'u' :: a :: b :: c :: d :: '\\' :: 'u' :: e :: f :: g :: h :: rest => do
    let first ← hexQuad? a b c d
    match hexQuad? e f g h >>= surrogatePair? first with
    | some char =>
      let (text, rest) ← readString rest
      return (char :: text, rest)
    | none =>
      let char ← plainUnit? first
      let (text, rest) ← readString ('\\' :: 'u' :: e :: f :: g :: h :: rest)
      return (char :: text, rest)
  | '\\' :: 'u' :: a :: b :: c :: d :: rest => do
    let char ← plainUnit? (← hexQuad? a b c d)
    let (text, rest) ← readString rest
    return (char :: text, rest)
  | '\\' :: c :: rest => do
    let char ← simpleEscape? c
    let (text, rest) ← readString rest
    return (char :: text, rest)
  | c :: rest =>
    if c = '\x22' then
      some ([], rest)
    else if c.toNat < 0x20 ∨ c = '\\' then
      none
    else do
      let (text, rest) ← readString rest
      return (c :: text, rest)

/-- Sets a field, in place of an earlier one of that name. -/
def setField (fields : List (String × Json)) (name : String) (value : Json) :
    List (String × Json) :=
  if (fields.lookup name).isSome then
    fields.map fun field => if field.1 == name then (name, value) else field
  else
    fields ++ [(name, value)]

/-- The number of arrays and objects that may stand in one another. -/
def maxDepth : Nat := 127

mutual

/-- Reads a value; `limit` bounds the number of values and separators still to be read, `depth` the
number of arrays and objects that may still be opened. -/
def readValue : (limit depth : Nat) → List Char → Option (Json × List Char)
  | 0, _, _ => none
  | limit + 1, depth, cs =>
    match skipBlank cs with
    | 'n' :: 'u' :: 'l' :: 'l' :: rest => some (null, rest)
    | 't' :: 'r' :: 'u' :: 'e' :: rest => some (bool true, rest)
    | 'f' :: 'a' :: 'l' :: 's' :: 'e' :: rest => some (bool false, rest)
    | '\x22' :: rest =>
      (readString rest).map fun (text, rest) => (string (String.ofList text), rest)
    | '[' :: rest =>
      if depth = 0 then
        none
      else
        match skipBlank rest with
        | ']' :: rest => some (array [], rest)
        | _ => (readItems limit (depth - 1) rest).map fun (items, rest) => (array items, rest)
    | '\x7b' :: rest =>
      if depth = 0 then
        none
      else
        match skipBlank rest with
        | '\x7d' :: rest => some (object [], rest)
        | _ =>
          (readFields limit (depth - 1) [] rest).map fun (fields, rest) => (object fields, rest)
    | cs => readNumber cs

/-- Reads the items of an array up to its closing bracket. -/
def readItems : (limit depth : Nat) → List Char → Option (List Json × List Char)
  | 0, _, _ => none
  | limit + 1, depth, cs => do
    let (item, rest) ← readValue limit depth cs
    match skipBlank rest with
    | ',' :: rest =>
      let (items, rest) ← readItems limit depth rest
      return (item :: items, rest)
    | ']' :: rest => return ([item], rest)
    | _ => none

/-- Reads the fields of an object up to its closing brace. -/
def readFields : (limit depth : Nat) → List (String × Json) → List Char →
    Option (List (String × Json) × List Char)
  | 0, _, _, _ => none
  | limit + 1, depth, fields, cs =>
    match skipBlank cs with
    | '\x22' :: rest => do
      let (name, rest) ← readString rest
      match skipBlank rest with
      | ':' :: rest =>
        let (value, rest) ← readValue limit depth rest
        let fields := setField fields (String.ofList name) value
        match skipBlank rest with
        | ',' :: rest => readFields limit depth fields rest
        | '\x7d' :: rest => return (fields, rest)
        | _ => none
      | _ => none
    | _ => none

end

/-- Reads a text that holds one value. -/
def parse (text : String) : Option Json := do
  let cs := text.toList
  let (json, rest) ← readValue (cs.length + 1) maxDepth cs
  if skipBlank rest = [] then return json else none

end Json

end DeclLint
