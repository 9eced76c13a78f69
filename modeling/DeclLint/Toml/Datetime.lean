/-!
# Dates and times

A TOML date-time has a date, a time of day, or both, and with both it may have an offset from
universal time. `Datetime.display` writes it in one form: a `T` between date and time, no zeros at
the end of a fraction of a second.
-/

namespace DeclLint

namespace Toml

/-- A calendar date. -/
structure Date where
  /-- the year -/
  year : Nat
  /-- the month, from 1 -/
  month : Nat
  /-- the day, from 1 -/
  day : Nat
deriving DecidableEq, Repr, Inhabited

/-- A time of day. -/
structure Time where
  /-- the hour -/
  hour : Nat
  /-- the minute -/
  minute : Nat
  /-- the second, 60 in a leap second -/
  second : Nat
  /-- the nanosecond -/
  nanosecond : Nat
deriving DecidableEq, Repr, Inhabited

/-- An offset from universal time. -/
inductive Offset where
  /-- universal time itself -/
  | utc
  /-- minutes ahead of universal time -/
  | minutes (ahead : Int)
deriving DecidableEq, Repr, Inhabited

/-- A date-time. -/
structure Datetime where
  /-- the date, if there is one -/
  date : Option Date
  /-- the time, if there is one -/
  time : Option Time
  /-- the offset, if there is one -/
  offset : Option Offset
deriving DecidableEq, Repr, Inhabited

/-- A number in decimal, with zeros in front up to a width. -/
def padded (width n : Nat) : String :=
  let digits := Nat.toDigits 10 n
  String.ofList (List.replicate (width - digits.length) '0' ++ digits)

namespace Date

/-- Whether a year has a 29th of February. -/
def isLeapYear (year : Nat) : Bool := year % 4 == 0 && (year % 100 != 0 || year % 400 == 0)

/-- The number of days of a month. -/
def daysIn (year month : Nat) : Nat :=
  if month = 2 then (if isLeapYear year then 29 else 28)
  else if month = 4 ∨ month = 6 ∨ month = 9 ∨ month = 11 then 30
  else 31

/-- The text of a date. -/
def display (date : Date) : String :=
  padded 4 date.year ++ "-" ++ padded 2 date.month ++ "-" ++ padded 2 date.day

end Date

namespace Time

/-- The text of a time. -/
def display (time : Time) : String :=
  let seconds := padded 2 time.hour ++ ":" ++ padded 2 time.minute ++ ":" ++ padded 2 time.second
  if time.nanosecond = 0 then seconds
  else
    let digits := (padded 9 time.nanosecond).toList
    seconds ++ "." ++ String.ofList (digits.reverse.dropWhile (· == '0')).reverse

end Time

namespace Offset

/-- The text of an offset. -/
def display : Offset → String
  | utc => "Z"
  | minutes ahead =>
    (if 0 ≤ ahead then "+" else "-") ++ padded 2 (ahead.natAbs / 60) ++ ":" ++
      padded 2 (ahead.natAbs % 60)

end Offset

namespace Datetime

/-- The key of a date-time that is taken for a table: its one entry maps this key to its text. -/
def tableKey : String := "$__toml_private_datetime"

/-- The text of a date-time. -/
def display (datetime : Datetime) : String :=
  (match datetime.date with
    | some date => date.display
    | none => "") ++
  (match datetime.date, datetime.time with
    | some _, some _ => "T"
    | _, _ => "") ++
  (match datetime.time with
    | some time => time.display
    | none => "") ++
  (match datetime.offset with
    | some offset => offset.display
    | none => "")

end Datetime

end Toml

end DeclLint
