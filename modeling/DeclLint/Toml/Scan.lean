import DeclLint.Toml.Value

/-!
# The tokens of TOML

Each scanner takes the characters that are left and gives what it read with the characters behind
it, or nothing if the characters do not begin with what it looks for.

* `basicBody`, `literalBody`, `basicLinesBody`, `literalLinesBody` — strings, from behind the
  opening quotes;
* `scalar?` — what a word outside quotes stands for: a truth value, a number, a date or a time;
* `key` — a key with its dots;
* `skipTrivia`, `endLine` — white space, comments and line ends.
-/

namespace DeclLint

namespace Toml

namespace Scan

/-! ### White space and comments -/

/-- White space within a line. -/
def isBlank (c : Char) : Bool := c == ' ' || c == '\t'

/-- Drops white space within a line. -/
def skipBlank (cs : List Char) : List Char := cs.dropWhile isBlank

/-- Whether a character may stand in comments and strings: any but control characters, tab
excepted. -/
def isPlain (c : Char) : Bool := c == '\t' || (0x20 ≤ c.toNat && c.toNat != 0x7F)

/-- Drops white space, comments and line ends. A comment has to end with its line. -/
def skipTrivia : (inComment : Bool) → List Char → Option (List Char)
  | inComment, [] => if inComment then none else some []
  | _, '\n' :: cs => skipTrivia false cs
  | _, '\r' :: '\n' :: cs => skipTrivia false cs
  | true, c :: cs => if isPlain c then skipTrivia true cs else none
  | false, c :: cs =>
    if isBlank c then skipTrivia false cs
    else if c = '#' then skipTrivia true cs
    else some (c :: cs)

/-- Drops white space and a comment up to the end of the line or of the text, which has to come. -/
def endLine : (inComment : Bool) → List Char → Option (List Char)
  | _, [] => some []
  | _, '\n' :: cs => some cs
  | _, '\r' :: '\n' :: cs => some cs
  | true, c :: cs => if isPlain c then endLine true cs else none
  | false, c :: cs =>
    if isBlank c then endLine false cs
    else if c = '#' then endLine true cs
    else none

/-- Drops white space and line ends. -/
def skipBlankLines : List Char → List Char
  | ' ' :: cs => skipBlankLines cs
  | '\t' :: cs => skipBlankLines cs
  | '\n' :: cs => skipBlankLines cs
  | '\r' :: '\n' :: cs => skipBlankLines cs
  | cs => cs

theorem length_skipBlankLines_le (cs : List Char) : (skipBlankLines cs).length ≤ cs.length := by
  fun_induction skipBlankLines cs <;> simp <;> omega

/-- What follows the blank rest of a line and all blank lines after it; nothing if the line has more
than white space. -/
def joinLines : List Char → Option (List Char)
  | '\n' :: cs => some (skipBlankLines cs)
  | '\r' :: '\n' :: cs => some (skipBlankLines cs)
  | ' ' :: cs => joinLines cs
  | '\t' :: cs => joinLines cs
  | _ => none

theorem length_joinLines_lt {cs rest : List Char} (h : joinLines cs = some rest) :
    rest.length < cs.length := by
  fun_induction joinLines cs with
  | case1 cs =>
    have := length_skipBlankLines_le cs
    simp at h
    subst h
    simp
    omega
  | case2 cs =>
    have := length_skipBlankLines_le cs
    simp at h
    subst h
    simp
    omega
  | case3 cs ih =>
    have := ih h
    simp
    omega
  | case4 cs ih =>
    have := ih h
    simp
    omega
  | case5 => cases h

/-! ### Strings -/

/-- The value of a hexadecimal digit. -/
def hexDigit? (c : Char) : Option Nat :=
  if '0' ≤ c ∧ c ≤ '9' then some (c.toNat - '0'.toNat)
  else if 'a' ≤ c ∧ c ≤ 'f' then some (c.toNat - 'a'.toNat + 10)
  else if 'A' ≤ c ∧ c ≤ 'F' then some (c.toNat - 'A'.toNat + 10)
  else none

/-- The character whose code point the hexadecimal digits write. -/
def codePoint? (digits : List Char) : Option Char := do
  let value ← digits.foldlM (fun n c => (hexDigit? c).map (n * 16 + ·)) 0
  if h : value.isValidChar then return Char.ofNatAux value h else none

/-- The character an escape of one letter stands for. -/
def simpleEscape? (c : Char) : Option Char :=
  if c = '\x22' ∨ c = '\\' then some c
  else if c = 'b' then some '\x08'
  else if c = 'f' then some '\x0c'
  else if c = 'n' then some '\n'
  else if c = 'r' then some '\r'
  else if c = 't' then some '\t'
  else none

/-- Adds a character in front of what was read. -/
def push (c : Char) : Option (List Char × List Char) → Option (List Char × List Char)
  | some (text, rest) => some (c :: text, rest)
  | none => none

/-- Reads a string in double quotes. -/
def basicBody : List Char → Option (List Char × List Char)
  | [] => none
  | '\\' :: 'u' :: a :: b :: c :: d :: cs =>
    (codePoint? [a, b, c, d]).bind fun char => push char (basicBody cs)
  | '\\' :: 'U' :: a :: b :: c :: d :: e :: f :: g :: h :: cs =>
    (codePoint? [a, b, c, d, e, f, g, h]).bind fun char => push char (basicBody cs)
  | '\\' :: c :: cs => (simpleEscape? c).bind fun char => push char (basicBody cs)
  | c :: cs =>
    if c = '\x22' then some ([], cs)
    else if isPlain c && c != '\\' then push c (basicBody cs)
    else none

/-- Reads a string in single quotes. -/
def literalBody : List Char → Option (List Char × List Char)
  | [] => none
  | c :: cs =>
    if c = '\x27' then some ([], cs)
    else if isPlain c then push c (literalBody cs)
    else none

/-- The end of a string in triple quotes, when three of them were read: up to two more quotes still
belong to the text. -/
def closing (quote : Char) : List Char → List Char × List Char
  | a :: b :: cs =>
    if a = quote ∧ b = quote then ([a, b], cs)
    else if a = quote then ([a], b :: cs)
    else ([], a :: b :: cs)
  | [a] => if a = quote then ([a], []) else ([], [a])
  | [] => ([], [])

/-- Reads a string in triple single quotes. -/
def literalLinesBody : List Char → Option (List Char × List Char)
  | [] => none
  | '\x27' :: '\x27' :: '\x27' :: cs => some (closing '\x27' cs)
  | '\r' :: '\n' :: cs => push '\n' (literalLinesBody cs)
  | c :: cs => if isPlain c || c == '\n' then push c (literalLinesBody cs) else none

/-- Reads a string in triple double quotes. A backslash at the end of a line joins it with the next
line that is not blank. -/
def basicLinesBody (cs : List Char) : Option (List Char × List Char) :=
  match cs with
  | [] => none
  | '\x22' :: '\x22' :: '\x22' :: cs => some (closing '\x22' cs)
  | '\r' :: '\n' :: cs => push '\n' (basicLinesBody cs)
  | '\\' :: 'u' :: a :: b :: c :: d :: cs =>
    (codePoint? [a, b, c, d]).bind fun char => push char (basicLinesBody cs)
  | '\\' :: 'U' :: a :: b :: c :: d :: e :: f :: g :: h :: cs =>
    (codePoint? [a, b, c, d, e, f, g, h]).bind fun char => push char (basicLinesBody cs)
  | '\\' :: c :: cs =>
    match simpleEscape? c with
    | some char => push char (basicLinesBody cs)
    | none =>
      match h : joinLines (c :: cs) with
      | some rest =>
        have := length_joinLines_lt h
        basicLinesBody rest
      | none => none
  | c :: cs => if (isPlain c && c != '\\') || c == '\n' then push c (basicLinesBody cs) else none
termination_by cs.length
decreasing_by all_goals simp at * <;> omega

/-- Drops a line end right behind the opening quotes. -/
def skipFirstLineEnd : List Char → List Char
  | '\n' :: cs => cs
  | '\r' :: '\n' :: cs => cs
  | cs => cs

/-- Reads a string with its quotes. -/
def string : List Char → Option (String × List Char)
  | '\x22' :: '\x22' :: '\x22' :: cs =>
    (basicLinesBody (skipFirstLineEnd cs)).map fun (text, rest) => (String.ofList text, rest)
  | '\x27' :: '\x27' :: '\x27' :: cs =>
    (literalLinesBody (skipFirstLineEnd cs)).map fun (text, rest) => (String.ofList text, rest)
  | '\x22' :: cs => (basicBody cs).map fun (text, rest) => (String.ofList text, rest)
  | '\x27' :: cs => (literalBody cs).map fun (text, rest) => (String.ofList text, rest)
  | _ => none

/-! ### Keys -/

/-- Reads one part of a key: bare, or in quotes on one line. -/
def simpleKey : List Char → Option (String × List Char)
  | '\x22' :: cs => (basicBody cs).map fun (text, rest) => (String.ofList text, rest)
  | '\x27' :: cs => (literalBody cs).map fun (text, rest) => (String.ofList text, rest)
  | cs =>
    match cs.span Quoting.isBareKeyChar with
    | ([], _) => none
    | (name, rest) => some (String.ofList name, rest)

/-- Reads a key of at most `limit` parts with dots between them. -/
def key : (limit : Nat) → List Char → Option (List String × List Char)
  | 0, _ => none
  | limit + 1, cs => do
    let (part, rest) ← simpleKey (skipBlank cs)
    match skipBlank rest with
    | '.' :: rest =>
      let (parts, rest) ← key limit rest
      return (part :: parts, rest)
    | rest => return ([part], rest)

/-! ### Words outside quotes -/

/-- Whether a character can belong to a number, a date or a word. -/
def isWordChar (c : Char) : Bool :=
  c.isAlphanum || c == '+' || c == '-' || c == '_' || c == '.' || c == ':'

/-- The digits of a number whose parts are joined by single underscores. -/
def digitGroups? (isDigit : Char → Bool) : List Char → Option (List Char)
  | [] => none
  | [c] => if isDigit c then some [c] else none
  | c :: '_' :: cs => if isDigit c then (digitGroups? isDigit cs).map (c :: ·) else none
  | c :: cs => if isDigit c then (digitGroups? isDigit cs).map (c :: ·) else none

/-- The number digits write in a base. -/
def digitsValue (base : Nat) (digits : List Char) : Nat :=
  digits.foldl (fun n c => n * base + (hexDigit? c).getD 0) 0

/-- The sign in front of a number. -/
def splitSign : List Char → Bool × List Char
  | '-' :: cs => (true, cs)
  | '+' :: cs => (false, cs)
  | cs => (false, cs)

/-- The digits of a decimal number, which has no zero in front of other digits. -/
def wholeDigits? (cs : List Char) : Option (List Char) := do
  let digits ← digitGroups? Char.isDigit cs
  if 1 < digits.length ∧ digits.head? = some '0' then none else return digits

/-- A number of 64 bits. -/
def bounded? (value : Int) : Option Value :=
  if -(Nat.pow 2 63 : Int) ≤ value ∧ value < Nat.pow 2 63 then some (.integer value) else none

/-- A whole number: decimal with a sign, or in base 16, 8 or 2 without one. -/
def integer? (word : List Char) : Option Value :=
  match word with
  | '0' :: 'x' :: cs =>
    (digitGroups? (fun c => (hexDigit? c).isSome) cs).bind fun digits =>
      bounded? (digitsValue 16 digits)
  | '0' :: 'o' :: cs =>
    (digitGroups? (fun c => '0' ≤ c && c ≤ '7') cs).bind fun digits =>
      bounded? (digitsValue 8 digits)
  | '0' :: 'b' :: cs =>
    (digitGroups? (fun c => c == '0' || c == '1') cs).bind fun digits =>
      bounded? (digitsValue 2 digits)
  | _ =>
    let (negative, cs) := splitSign word
    (wholeDigits? cs).bind fun digits =>
      let value : Int := digitsValue 10 digits
      bounded? (if negative then -value else value)

/-- The part of a number behind the letter of its exponent. -/
def exponent? (cs : List Char) : Option Int := do
  let (negative, cs) := splitSign cs
  let value : Int := digitsValue 10 (← digitGroups? Char.isDigit cs)
  return if negative then -value else value

/-- A number with a point or an exponent. A positive number must not be too large. -/
def float? (word : List Char) : Option Value := do
  let (negative, unsigned) := splitSign word
  if unsigned = ['i', 'n', 'f'] then return .float (.infinite negative)
  if unsigned = ['n', 'a', 'n'] then return .float (.nan negative)
  let (mantissa, tail) := unsigned.span fun c => c != 'e' && c != 'E'
  let (whole, fraction) := mantissa.span (· != '.')
  let wholePart ← wholeDigits? whole
  let places ← match fraction with
    | '.' :: cs => digitGroups? Char.isDigit cs
    | _ => some []
  let power ← match tail with
    | _ :: cs => exponent? cs
    | [] => some 0
  if fraction.isEmpty && tail.isEmpty then none
  let value := Binary64.ofDecimal negative (digitsValue 10 (wholePart ++ places))
    (power - places.length)
  if value = .infinite false then none
  return .float value

/-- A number of exactly two digits in a range. -/
def twoDigits? (low high : Nat) (a b : Char) : Option Nat :=
  if a.isDigit && b.isDigit then
    let value := digitsValue 10 [a, b]
    if low ≤ value ∧ value ≤ high then some value else none
  else
    none

/-- A date. -/
def date? : List Char → Option Date
  | [a, b, c, d, '-', e, f, '-', g, h] => do
    if !([a, b, c, d].all Char.isDigit) then none
    let year := digitsValue 10 [a, b, c, d]
    let month ← twoDigits? 1 12 e f
    let day ← twoDigits? 1 (Date.daysIn year month) g h
    return { year, month, day }
  | _ => none

/-- Nanoseconds from the digits behind the point of a second; those past the ninth are dropped. -/
def nanoseconds (digits : List Char) : Nat :=
  digitsValue 10 (digits.take 9) * Nat.pow 10 (9 - min 9 digits.length)

/-- The time at the beginning. -/
def timeOf? : List Char → Option (Time × List Char)
  | a :: b :: ':' :: c :: d :: ':' :: e :: f :: cs => do
    let hour ← twoDigits? 0 23 a b
    let minute ← twoDigits? 0 59 c d
    let second ← twoDigits? 0 60 e f
    match cs with
    | '.' :: cs =>
      match cs.span Char.isDigit with
      | ([], _) => none
      | (digits, rest) => return ({ hour, minute, second, nanosecond := nanoseconds digits }, rest)
    | cs => return ({ hour, minute, second, nanosecond := 0 }, cs)
  | _ => none

/-- The offset behind a time, if there is one. -/
def offset? : List Char → Option (Option Offset)
  | [] => some none
  | ['Z'] => some (some .utc)
  | ['z'] => some (some .utc)
  | [sign, a, b, ':', c, d] => do
    let hours ← twoDigits? 0 23 a b
    let minutes ← twoDigits? 0 59 c d
    let total := hours * 60 + minutes
    if sign = '+' then return some (.minutes total)
    if sign = '-' then return some (.minutes (-total))
    none
  | _ => none

/-- A date together with the time behind it. -/
def dateAndTime? (date : Date) (cs : List Char) : Option Datetime := do
  let (time, rest) ← timeOf? cs
  let offset ← offset? rest
  return { date := some date, time := some time, offset }

/-- Whether a character may stand between date and time. -/
def isTimeMark (c : Char) : Bool := c == 'T' || c == 't' || c == ' '

/-- A date, a time, or both with a mark between them. -/
def datetime? (word : List Char) : Option Datetime :=
  match date? (word.take 10) with
  | some date =>
    match word.drop 10 with
    | [] => some { date := some date, time := none, offset := none }
    | c :: cs => if isTimeMark c then dateAndTime? date cs else none
  | none =>
    match timeOf? word with
    | some (time, []) => some { date := none, time := some time, offset := none }
    | _ => none

/-- What a word outside quotes stands for. -/
def scalar? (word : List Char) : Option Value :=
  if word = ['t', 'r', 'u', 'e'] then some (.boolean true)
  else if word = ['f', 'a', 'l', 's', 'e'] then some (.boolean false)
  else ((datetime? word).map .datetime).or ((float? word).or (integer? word))

/-- Reads a word outside quotes. A date may be followed by a blank and a time. -/
def scalar (cs : List Char) : Option (Value × List Char) :=
  let (word, rest) := cs.span isWordChar
  let joined := match date? word, rest with
    | some date, ' ' :: behind =>
      let (second, rest) := behind.span isWordChar
      (dateAndTime? date second).map fun found => (Value.datetime found, rest)
    | _, _ => none
  joined.or ((scalar? word).map (·, rest))

end Scan

end Toml

end DeclLint
