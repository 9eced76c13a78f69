import DeclLint.Edit.Layout
import DeclLint.Text.Blank
import Mathlib.Data.List.DropRight

/-!
# Items of a list in brackets

What stands between the brackets of a list is read by cutting it at its commas and taking the white
space off the pieces (`Text.pieces`). A `ListBody` is any way to write a list that is read like
this: items with white space around them, a comma between two of them and perhaps one more behind
the last, or white space only.

No layout keeps track of the comma behind the last item. The text for a new item goes right behind
the last one, and so before such a comma, which then stands behind the new item: whatever the white
space is, the pieces are those of before with the new item behind the other items
(`Layout.pieces_insert`).
-/

namespace DeclLint

namespace Text

/-- Whether a character is white space. -/
def isSpace (c : Char) : Bool := whiteSpace.contains c.toNat

/-- The text without the white space at its ends. -/
def trim (text : String) : String :=
  String.ofList ((text.toList.dropWhile isSpace).rdropWhile isSpace)

/-- The pieces between the commas of a text, without the white space at their ends. -/
def pieces (text : String) : List String :=
  (text.toList.splitOn ',').map fun piece => trim (String.ofList piece)

/-! ### White space -/

/-- A blank text has nothing but white space in it. The empty text is blank. -/
theorem isBlank_iff {text : String} : isBlank text = true ↔ ∀ c ∈ text.toList, isSpace c = true :=
  List.all_eq_true

theorem isBlank_append {a b : String} (ha : isBlank a = true) (hb : isBlank b = true) :
    isBlank (a ++ b) = true := by
  rw [isBlank_iff, String.toList_append]
  exact List.forall_mem_append.2 ⟨isBlank_iff.1 ha, isBlank_iff.1 hb⟩

/-- White space has no comma in it, and so separates nothing. -/
theorem comma_notMem_of_isBlank {text : String} (h : isBlank text = true) : ',' ∉ text.toList :=
  fun hcomma => absurd (isBlank_iff.1 h ',' hcomma) (by decide)

/-- **White space at the ends does not matter.** A text may be padded on either side and still be
trimmed to the same. -/
theorem trim_append {before after : String} (hbefore : isBlank before = true)
    (hafter : isBlank after = true) (text : String) :
    trim (before ++ text ++ after) = trim text := by
  have hfront : (before ++ text ++ after).toList.dropWhile isSpace =
      (text.toList ++ after.toList).dropWhile isSpace := by
    rw [String.toList_append, String.toList_append, List.append_assoc,
      List.dropWhile_append_of_pos (isBlank_iff.1 hbefore)]
  have hback : ∀ cs : List Char,
      (cs ++ after.toList).rdropWhile isSpace = cs.rdropWhile isSpace := by
    intro cs
    rw [List.rdropWhile, List.reverse_append, List.dropWhile_append_of_pos, List.rdropWhile]
    exact fun c hc => isBlank_iff.1 hafter c (List.mem_reverse.1 hc)
  rw [trim, trim, hfront, List.dropWhile_append]
  split
  · -- the text is blank, and so is all that stands around it
    next hblank =>
    have hnil := List.dropWhile_eq_nil_iff.2 (isBlank_iff.1 hafter)
    rw [hnil, List.isEmpty_iff.1 hblank]
  · rw [hback]

theorem trim_of_isBlank {text : String} (h : isBlank text = true) : trim text = "" := by
  have hempty : isBlank "" = true := rfl
  calc trim text = trim (text ++ "" ++ "") := by rw [String.append_empty, String.append_empty]
    _ = "" := trim_append h hempty ""

/-! ### Pieces -/

/-- Without a comma there is one piece, even where that is empty. -/
theorem pieces_of_comma_notMem {text : String} (h : ',' ∉ text.toList) :
    pieces text = [trim text] := by
  rw [pieces, List.splitOn_eq_singleton h, List.map_singleton, String.ofList_toList]

/-- **The first piece ends at the first comma.** What stands behind that comma is cut into pieces by
itself. -/
theorem pieces_append_comma {first : String} (h : ',' ∉ first.toList) (rest : String) :
    pieces (first ++ "," ++ rest) = trim first :: pieces rest := by
  have hcomma : (first ++ "," ++ rest).toList = first.toList ++ ',' :: rest.toList := by simp
  rw [pieces, hcomma, List.splitOn_append_cons_self_of_not_mem h, List.map_cons,
    String.ofList_toList]
  rfl

/-- White space. -/
abbrev Blank := { text : String // isBlank text = true }

end Text

/-! ### Lists in brackets -/

namespace Layout

/-- A text that can be an item of a list. -/
structure IsItem (text : String) : Prop where
  /-- no comma ends it too early -/
  noComma : ',' ∉ text.toList
  /-- it has no white space at its ends -/
  trimmed : Text.trim text = text
  /-- there is something of it -/
  notBlank : Text.isBlank text = false

/-- An item of a list. -/
abbrev Item := { text : String // IsItem text }

/-- An item with the white space around it. -/
structure Slot where
  /-- the white space before the item -/
  before : Text.Blank
  /-- the item -/
  item : Item
  /-- the white space behind the item -/
  after : Text.Blank

/-- The text of an item with the white space around it. -/
def Slot.text (slot : Slot) : String := slot.before.val ++ slot.item.val ++ slot.after.val

/-- What stands between the brackets of a list. -/
inductive ListBody where
  /-- a list without items -/
  | empty (space : Text.Blank)
  /-- a list with items, and white space behind a last comma if there is one -/
  | filled (front : List Slot) (last : Slot) (trailing : Option Text.Blank)

namespace ListBody

/-- Items with a comma behind each, and then `rest`. -/
def inFront (front : List Slot) (rest : String) : String :=
  front.foldr (fun slot rest => slot.text ++ "," ++ rest) rest

/-- The last comma and the white space behind it. -/
def lastComma : Option Text.Blank → String
  | none => ""
  | some space => "," ++ space.val

/-- The text of a list without its brackets. -/
def text : ListBody → String
  | empty space => space
  | filled front last trailing => inFront front (last.text ++ lastComma trailing)

/-- The items of a list. -/
def items : ListBody → List String
  | empty _ => []
  | filled front last _ => front.map (·.item.val) ++ [last.item.val]

/-- Whether a list has items. -/
def hasItems (body : ListBody) : Bool := !body.items.isEmpty

/-- Whether a comma stands behind the last item. -/
def trailingComma : ListBody → Bool
  | empty _ => false
  | filled _ _ trailing => trailing.isSome

/-- The text up to where a new item goes: up to the end of the last item, or nothing if there is
none. -/
def head : ListBody → String
  | empty _ => ""
  | filled front last _ => inFront front (last.before.val ++ last.item.val)

/-- The text from where a new item goes. -/
def tail : ListBody → String
  | empty space => space
  | filled _ last trailing => last.after.val ++ lastComma trailing

/-- The offsets at which items begin and end, in a text that has the first of them at `offset`. -/
def spansFrom (offset : Nat) : List Slot → List (Nat × Nat)
  | [] => []
  | slot :: rest =>
    let start := offset + slot.before.val.utf8ByteSize
    (start, start + slot.item.val.utf8ByteSize) ::
      spansFrom (offset + (slot.text ++ ",").utf8ByteSize) rest

/-- The offsets at which the items of a list begin and end, if the list begins at `offset`. -/
def spans (offset : Nat) : ListBody → List (Nat × Nat)
  | empty _ => []
  | filled front last _ => spansFrom offset (front ++ [last])

/-! ### Reading a list -/

/-- An item with white space around it has no comma in it. -/
theorem comma_notMem_text (slot : Slot) : ',' ∉ slot.text.toList := by
  obtain ⟨⟨before, hbefore⟩, ⟨item, hitem⟩, ⟨after, hafter⟩⟩ := slot
  rw [Slot.text, String.toList_append, String.toList_append, List.append_assoc]
  exact List.not_mem_append (Text.comma_notMem_of_isBlank hbefore)
    (List.not_mem_append hitem.noComma (Text.comma_notMem_of_isBlank hafter))

theorem trim_text (slot : Slot) : Text.trim slot.text = slot.item.val := by
  obtain ⟨⟨before, hbefore⟩, ⟨item, hitem⟩, ⟨after, hafter⟩⟩ := slot
  exact (Text.trim_append hbefore hafter item).trans hitem.trimmed

/-- Items with a comma behind each of them are read one by one, and what comes after is read as if
they were not there. -/
theorem pieces_inFront (front : List Slot) (rest : String) :
    Text.pieces (inFront front rest) = front.map (·.item.val) ++ Text.pieces rest := by
  induction front with
  | nil => rfl
  | cons slot front ih =>
    have hslot : inFront (slot :: front) rest = slot.text ++ "," ++ inFront front rest := rfl
    rw [hslot, Text.pieces_append_comma (comma_notMem_text slot), trim_text, ih]
    rfl

/-- **A list is read as its items**, and a comma behind the last one as an empty piece. White space
around the items and around that comma is not read. -/
theorem pieces_text_filled (front : List Slot) (last : Slot) (trailing : Option Text.Blank) :
    Text.pieces (filled front last trailing).text =
      (filled front last trailing).items ++
        if (filled front last trailing).trailingComma then [""] else [] := by
  rw [text, pieces_inFront, items, List.append_assoc]
  refine congrArg _ ?_
  cases trailing with
  | none =>
    rw [lastComma, String.append_empty, Text.pieces_of_comma_notMem (comma_notMem_text last),
      trim_text]
    rfl
  | some space =>
    rw [lastComma, ← String.append_assoc, Text.pieces_append_comma (comma_notMem_text last),
      trim_text, Text.pieces_of_comma_notMem (Text.comma_notMem_of_isBlank space.property),
      Text.trim_of_isBlank space.property]
    rfl

/-! ### A new item -/

theorem inFront_append (front : List Slot) (rest more : String) :
    inFront front (rest ++ more) = inFront front rest ++ more := by
  induction front with
  | nil => rfl
  | cons slot front ih =>
    have hslot : ∀ rest, inFront (slot :: front) rest = slot.text ++ "," ++ inFront front rest :=
      fun _ => rfl
    rw [hslot, hslot, ih]
    exact String.append_assoc.symm

/-- Head and tail are the text, cut where a new item goes. -/
theorem head_append_tail (body : ListBody) : body.head ++ body.tail = body.text := by
  cases body with
  | empty space => exact String.empty_append
  | filled front last trailing =>
    rw [head, tail, ← inFront_append, text, Slot.text]
    simp only [String.append_assoc]

theorem spansFrom_ne_nil (offset : Nat) (front : List Slot) (last : Slot) :
    spansFrom offset (front ++ [last]) ≠ [] := by
  cases front with
  | nil => exact List.cons_ne_nil _ _
  | cons slot front => exact List.cons_ne_nil _ _

/-- **A new item goes where the last one ends.** The place is counted in bytes, from the start of
the text the list stands in. -/
theorem exists_getLast?_spans (offset : Nat) (front : List Slot) (last : Slot)
    (trailing : Option Text.Blank) :
    ∃ start, ((filled front last trailing).spans offset).getLast? =
      some (start, offset + (filled front last trailing).head.utf8ByteSize) := by
  rw [spans, head]
  induction front generalizing offset with
  | nil =>
    refine ⟨offset + last.before.val.utf8ByteSize, ?_⟩
    rw [inFront, List.foldr_nil, String.utf8ByteSize_append, ← Nat.add_assoc]
    rfl
  | cons slot front ih =>
    obtain ⟨start, hlast⟩ := ih (offset + (slot.text ++ ",").utf8ByteSize)
    refine ⟨start, ?_⟩
    have hsize : (inFront (slot :: front) (last.before.val ++ last.item.val)).utf8ByteSize =
        (slot.text ++ ",").utf8ByteSize +
          (inFront front (last.before.val ++ last.item.val)).utf8ByteSize :=
      String.utf8ByteSize_append
    rw [List.cons_append, spansFrom, List.getLast?_cons_of_ne_nil (spansFrom_ne_nil _ front last),
      hlast, hsize, Nat.add_assoc]

/-- The list with one item more, behind white space. What stood behind the last item, the white
space there included, stands behind the new one. -/
def add (space : Text.Blank) (item : Item) : ListBody → ListBody
  | empty behind => filled [] ⟨space, item, behind⟩ none
  | filled front last trailing =>
    filled (front ++ [{ last with after := ⟨"", rfl⟩ }]) ⟨space, item, last.after⟩ trailing

/-- **The new item is written between head and tail**, behind a comma if there are others. -/
theorem text_add (body : ListBody) (space : Text.Blank) (item : Item) :
    (body.add space item).text =
      body.head ++ ((if body.hasItems then "," else "") ++ space.val ++ item.val) ++ body.tail := by
  cases body with
  | empty behind =>
    have hnone : (empty behind).hasItems = false := rfl
    rw [hnone, head, tail, add, text, Slot.text]
    simp [inFront, lastComma]
  | filled front last trailing =>
    have hsome : (filled front last trailing).hasItems = true := by simp [hasItems, items]
    have hfront : ∀ (slot : Slot) (rest : String),
        inFront (front ++ [slot]) rest = inFront front (slot.text ++ "," ++ rest) := by
      intro slot rest
      rw [inFront, List.foldr_append]
      rfl
    rw [hsome, head, tail, add, text, hfront, ← inFront_append, ← inFront_append, Slot.text,
      Slot.text]
    simp [String.append_assoc]

/-- A list with a new item at its end is read as the items of before, then the new one. -/
theorem pieces_text_add (body : ListBody) (space : Text.Blank) (item : Item) :
    Text.pieces (body.add space item).text =
      body.items ++ item.val :: if body.trailingComma then [""] else [] := by
  cases body with
  | empty behind => exact pieces_text_filled _ _ _
  | filled front last trailing =>
    rw [add, pieces_text_filled, items, items, List.map_append, List.append_assoc]
    rfl

end ListBody

/-- The text for a new item is the item, behind white space and, if there are other items, a comma.
The white space is a blank, a line break with the indent, or nothing. -/
theorem exists_listItemInsertion_eq {shape : ListShape} (hindent : Text.isBlank shape.indent = true)
    (item : String) :
    ∃ space : Text.Blank,
      listItemInsertion shape item = (if shape.hasItems then "," else "") ++ space.val ++ item := by
  obtain ⟨hasItems, multiline, indent⟩ := shape
  have hline : Text.isBlank ("\n" ++ indent) = true := Text.isBlank_append (by decide) hindent
  cases hasItems <;> cases multiline
  · exact ⟨⟨"", by decide⟩, by simp [listItemInsertion]⟩
  · exact ⟨⟨"\n" ++ indent, hline⟩, by simp [listItemInsertion]⟩
  · exact ⟨⟨" ", by decide⟩, by simp [listItemInsertion]⟩
  · refine ⟨⟨"\n" ++ indent, hline⟩, ?_⟩
    calc ",\n" ++ indent ++ item = "," ++ "\n" ++ indent ++ item := rfl
      _ = "," ++ ("\n" ++ indent) ++ item := congrArg (· ++ item) String.append_assoc

/-- **A new item comes last**, and a comma that stood behind the last item stands behind the new
one. -/
theorem pieces_insert (body : ListBody) {shape : ListShape}
    (hitems : shape.hasItems = body.hasItems) (hindent : Text.isBlank shape.indent = true)
    {item : String} (hitem : IsItem item) :
    Text.pieces (body.head ++ listItemInsertion shape item ++ body.tail) =
      body.items ++ item :: if body.trailingComma then [""] else [] := by
  obtain ⟨space, hinsertion⟩ := exists_listItemInsertion_eq hindent item
  rw [hinsertion, hitems]
  exact (congrArg Text.pieces (body.text_add space ⟨item, hitem⟩)).symm.trans
    (body.pieces_text_add space ⟨item, hitem⟩)

end Layout

end DeclLint
