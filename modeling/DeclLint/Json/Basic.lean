import DeclLint.Number.Binary64
import DeclLint.Text.Bytes

/-!
# JSON values

The values snapshots are made of. Whole numbers are kept apart from fractions, since a field that
counts something takes `1` and not `1.0`.

`Json.record?` views a value as a record: an object by the names of its fields, an array by their
order. The values of a `Record` carry a bound on their size, so a reader may recurse into them.
-/

namespace DeclLint

/-- A JSON value. -/
inductive Json where
  /-- the null value -/
  | null
  /-- a truth value -/
  | bool (value : Bool)
  /-- a whole number -/
  | int (value : Int)
  /-- any other number -/
  | float (value : Binary64)
  /-- a text -/
  | string (text : String)
  /-- a list of values -/
  | array (items : List Json)
  /-- named values -/
  | object (fields : List (String × Json))
deriving Inhabited

namespace Json

/-! ### Plain values -/

/-- A natural number as a value. -/
def nat (n : Nat) : Json := int n

/-- A value that may be absent. -/
def ofOption {α : Type} (encode : α → Json) : Option α → Json
  | none => null
  | some a => encode a

/-- A list of values. -/
def ofList {α : Type} (encode : α → Json) (items : List α) : Json := array (items.map encode)

/-- The text of a string. -/
def string? : Json → Option String
  | string text => some text
  | _ => none

/-- The truth value of a boolean. -/
def bool? : Json → Option Bool
  | bool value => some value
  | _ => none

/-- The value of a whole number that fits a machine word. -/
def word? : Json → Option Nat
  | int (.ofNat n) => if Text.isWord n then some n else none
  | _ => none

/-- One of a closed set of words: a string, or an object that maps the word to null. -/
def oneOf? {α : Type} (ofName? : String → Option α) : Json → Option α
  | string text => ofName? text
  | object [(text, null)] => ofName? text
  | _ => none

/-- One of a closed set of words, where an object may also map the word to the empty object. -/
def oneOfOrEmpty? {α : Type} (ofName? : String → Option α) : Json → Option α
  | object [(text, object [])] => ofName? text
  | json => json.oneOf? ofName?

/-- The fields of an object. -/
def fields? : Json → Option (List (String × Json))
  | object fields => some fields
  | _ => none

/-- The value of a field of an object. -/
def field? (json : Json) (name : String) : Option Json := json.fields?.bind (·.lookup name)

/-- A value that may be absent, null standing for none. -/
def nullable? {α : Type} (read : Json → Option α) : Json → Option (Option α)
  | null => some none
  | json => (read json).map some

/-! ### Lists and records -/

/-- Reads all items of a list; `read` is told that items are smaller than the bound. -/
def readAll {α : Type} {bound : Nat} (read : (json : Json) → sizeOf json < bound → Option α) :
    (items : List Json) → (∀ item ∈ items, sizeOf item < bound) → Option (List α)
  | [], _ => some []
  | item :: rest, small => do
    let first ← read item (small item (by simp))
    let others ← readAll read rest fun other h => small other (by simp [h])
    return first :: others

theorem sizeOf_item_lt {item : Json} {items : List Json} (h : item ∈ items) :
    sizeOf item < sizeOf (array items) := by
  have := List.sizeOf_lt_of_mem h
  simp only [array.sizeOf_spec]
  omega

theorem sizeOf_field_lt {name : String} {value : Json} {fields : List (String × Json)}
    (h : (name, value) ∈ fields) : sizeOf value < sizeOf (object fields) := by
  have := List.sizeOf_lt_of_mem h
  simp only [object.sizeOf_spec, Prod.mk.sizeOf_spec] at *
  omega

/-- Reads an array, item by item. -/
def list? {α : Type} (json : Json) (read : (item : Json) → sizeOf item < sizeOf json → Option α) :
    Option (List α) :=
  match json with
  | array items => readAll read items fun _ h => sizeOf_item_lt h
  | _ => none

/-- The fields of a record; their values are smaller than the bound. -/
structure Record (bound : Nat) where
  /-- names and values -/
  fields : List (String × Json)
  /-- the bound holds -/
  small : ∀ {name : String} {value : Json}, (name, value) ∈ fields → sizeOf value < bound

/-- Views a value as a record with the given field names. An object is taken as it is. An array
gives the fields in order: at least the `required` first ones, and no more than there are names. -/
def record? (names : List String) (required : Nat) : (json : Json) → Option (Record (sizeOf json))
  | object fields => some ⟨fields, sizeOf_field_lt⟩
  | array items =>
    if required ≤ items.length ∧ items.length ≤ names.length then
      some ⟨names.zip items, fun h => sizeOf_item_lt (List.of_mem_zip h).2⟩
    else
      none
  | _ => none

/-- The name of a variant: the name itself, or its place among the numbered names. -/
def tagName? (numbered : List String) : Json → Option String
  | string name => some name
  | int (.ofNat place) => numbered[place]?
  | _ => none

/-- Views a value as a variant of a tagged union: the name of the variant and the record that goes
with it. The tag is a field of an object or the first item of an array; besides a name it may be a
place in `numbered`. `shape` gives the field names of each variant and the number of those an array
must have. -/
def variant? (tag : String) (numbered : List String) (shape : String → List String × Nat) :
    (json : Json) → Option (String × Record (sizeOf json))
  | object fields => do
    let name ← (← fields.lookup tag).tagName? numbered
    return (name, ⟨fields, sizeOf_field_lt⟩)
  | array (first :: items) => do
    let name ← first.tagName? numbered
    let (names, required) := shape name
    if required ≤ items.length ∧ items.length ≤ names.length then
      some (name, ⟨names.zip items, fun h =>
        sizeOf_item_lt (List.mem_cons_of_mem _ (List.of_mem_zip h).2)⟩)
    else
      none
  | _ => none

namespace Record

variable {bound : Nat} {α : Type}

/-- The value of a field, with its bound. -/
def get? (record : Record bound) (name : String) : Option { json : Json // sizeOf json < bound } :=
  match h : record.fields.find? (·.1 == name) with
  | none => none
  | some (_, value) => some ⟨value, record.small (List.mem_of_find?_eq_some h)⟩

/-- Reads a field that has to be there. -/
def required (record : Record bound) (name : String)
    (read : (json : Json) → sizeOf json < bound → Option α) : Option α := do
  let ⟨json, small⟩ ← record.get? name
  read json small

/-- Reads a field that may be missing, and then has a default value. -/
def withDefault (record : Record bound) (name : String) (value : α)
    (read : (json : Json) → sizeOf json < bound → Option α) : Option α :=
  match record.get? name with
  | none => some value
  | some ⟨json, small⟩ => read json small

/-- Reads a field that may be missing or null. -/
def optional (record : Record bound) (name : String)
    (read : (json : Json) → sizeOf json < bound → Option α) : Option (Option α) :=
  match record.get? name with
  | none => some none
  | some ⟨null, _⟩ => some none
  | some ⟨json, small⟩ => (read json small).map some

/-- Reads a list that may be missing, and then is empty. -/
def listD (record : Record bound) (name : String)
    (read : (json : Json) → sizeOf json < bound → Option α) : Option (List α) :=
  record.withDefault name [] fun json small =>
    json.list? fun item h => read item (Nat.lt_trans h small)

end Record

end Json

end DeclLint
