import DeclLint.Toml.Scan

/-!
# Date-times as tables

A date-time can be taken for a table with one entry, its text under the key `Datetime.tableKey`, and
a table can stand for a date-time in turn.

* `Value.datetimeAsTable` — the table in place of a date-time;
* `Value.withDatetimes?` — the date-times in place of the tables of a value. A table whose first key
  is another one stays a table, whatever its other keys are.
-/

namespace DeclLint

namespace Toml

/-- The date-time a string writes. -/
def Datetime.ofText? (text : String) : Option Datetime :=
  Scan.datetime? text.toList

namespace Value

/-- The table that stands for a date-time; every other value as it is. -/
def datetimeAsTable : Value → Value
  | datetime value => table [(Datetime.tableKey, string value.display)]
  | value => value

/-- Reads the entries of a table that begins with the key of date-times: there is no other entry,
and it holds the text of a date-time. -/
def datetimeOfEntries? : List (String × Value) → Option Datetime
  | [(_, string text)] => Datetime.ofText? text
  | _ => none

mutual

/-- Puts a date-time in place of each table that begins with the key of date-times. There is no
value if such a table does not hold one. -/
def withDatetimes? : Value → Option Value
  | array items => (itemsWithDatetimes? items).map array
  | table entries =>
    if entries.head?.map (·.1) = some Datetime.tableKey then
      (datetimeOfEntries? entries).map datetime
    else
      (entriesWithDatetimes? entries).map table
  | value => some value

/-- Puts date-times into the items of an array. -/
def itemsWithDatetimes? : List Value → Option (List Value)
  | [] => some []
  | item :: rest => do return (← item.withDatetimes?) :: (← itemsWithDatetimes? rest)

/-- Puts date-times into the entries of a table. -/
def entriesWithDatetimes? : List (String × Value) → Option (List (String × Value))
  | [] => some []
  | (key, value) :: rest => do
    return (key, ← value.withDatetimes?) :: (← entriesWithDatetimes? rest)

end

end Value

end Toml

end DeclLint
