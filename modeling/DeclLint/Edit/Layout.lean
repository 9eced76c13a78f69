/-!
# Layout of inserted code

Text to insert follows the layout it finds: a new list item goes on a line of its own when the other
items do, and nested code is indented by tabs where the code around it is.
-/

namespace DeclLint

namespace Layout

/-- How many spaces one level of indentation takes. -/
def indentWidth : Nat := 4

/-- Whether the lines on which items start are not all the same. -/
def spansLines : List Nat → Bool
  | [] => false
  | first :: rest => rest.any (· != first)

/-- One more level of indentation inside code indented by `outer`: a tab where `outer` has one. -/
def indentStep (outer : String) : String :=
  if outer.toList.contains '\t' then "\t" else String.ofList (List.replicate indentWidth ' ')

/-- The layout of a comma-separated list. -/
structure ListShape where
  /-- whether the list has items -/
  hasItems : Bool
  /-- whether each item stands on a line of its own -/
  multiline : Bool
  /-- the white space before the items of a list over several lines -/
  indent : String
deriving DecidableEq, Repr

/-- The text that adds `item` at the end of a list. It goes right after the last item, or after the
opening bracket when there is none, so a comma that stood after the last item stands after the new
one. -/
def listItemInsertion (shape : ListShape) (item : String) : String :=
  match shape.hasItems, shape.multiline with
  | true, true => ",\n" ++ shape.indent ++ item
  | true, false => ", " ++ item
  | false, true => "\n" ++ shape.indent ++ item
  | false, false => item

/-- The text of an `init` block that holds `statement`, inside a declaration indented by `outer`.
With `openBody` the text opens and closes the body of the declaration as well. -/
def initBlock (statement outer : String) (openBody : Bool) : String :=
  let step := indentStep outer
  let inner := outer ++ step
  let innermost := inner ++ step
  let block := "\n" ++ inner ++ "init \x7b\n" ++ innermost ++ statement ++ "\n" ++ inner ++ "\x7d\n"
  if openBody then " \x7b" ++ block ++ outer ++ "\x7d" else block

end Layout

end DeclLint
