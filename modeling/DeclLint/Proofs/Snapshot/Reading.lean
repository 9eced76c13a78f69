import DeclLint.Proofs.Snapshot.Form
import Mathlib.Data.List.Nodup

/-!
# Reading relaxed snapshots

`Reads form read a written` says that `read` finds `a` in everything `written` may be relaxed to.
This module proves it for lists, and opens records field by field:

* `RelaxedFields.stands` — a known field keeps its value up to relaxation, or is gone with its
  default;
* `Opened` — a record made by relaxing given fields, with one lemma for each way of reading a field.
-/

namespace DeclLint

namespace Snapshot

variable {α : Type}

/-! ### Inversion -/

/-- **A plain value has no slack**: it holds no fields that could be left out or added, so a relaxed
version of it is the value itself. -/
theorem Relaxed.eq_of_plain {value given : Json} (h : Relaxed .plain value given) :
    given = value := by
  cases h
  rfl

/-- What was written as null stays null. A relaxed version may leave a field out altogether, but
does not put a value where there was none. -/
theorem Relaxed.eq_null {form : Form} {given : Json} (h : Relaxed (.nullable form) .null given) :
    given = .null := by
  cases h with
  | same => rfl
  | nullable present => exact absurd rfl present

/-- A value that may be null is relaxed like the value that is there. -/
theorem Relaxed.of_nullable {form : Form} {value given : Json}
    (h : Relaxed (.nullable form) value given) : Relaxed form value given := by
  cases h with
  | same => exact .same
  | nullable _ relaxed => exact relaxed

theorem RelaxedItems.refl {form : Form} (items : List Json) : RelaxedItems form items items := by
  induction items with
  | nil => exact .nil
  | cons item items ih => exact .cons .same ih

/-- **Relaxing goes into lists**: a relaxed list has as many items, each of them a relaxed version
of the one that was written there. -/
theorem Relaxed.items {form : Form} {items : List Json} {given : Json}
    (h : Relaxed (.list form) (.array items) given) :
    ∃ givens, given = .array givens ∧ RelaxedItems form items givens := by
  cases h with
  | same => exact ⟨items, rfl, .refl items⟩
  | list relaxed => exact ⟨_, rfl, relaxed⟩

/-- **Relaxing goes into records**: a relaxed record is still an object, with fields that are
relaxed versions of those that were written. -/
theorem Relaxed.fields {known : List Field} {fields : List (String × Json)} {given : Json}
    (h : Relaxed (.record known) (.object fields) given) :
    ∃ givens, given = .object givens ∧ RelaxedFields known fields givens := by
  cases h with
  | same => exact ⟨fields, rfl, .same⟩
  | record relaxed => exact ⟨_, rfl, relaxed⟩

/-- An expression is a record whose fields depend on its kind. The kind is itself a field, and
cannot be left out. -/
theorem Relaxed.exprFields {node : String} {fields : List (String × Json)} {given : Json}
    (h : Relaxed .expr (.object fields) given)
    (hnode : fields.lookup "node" = some (.string node)) :
    ∃ givens, given = .object givens ∧ RelaxedFields (Expr.fields node) fields givens := by
  cases h with
  | same => exact ⟨fields, rfl, .same⟩
  | expr kind relaxed =>
    obtain ⟨⟩ := kind.symm.trans hnode
    exact ⟨_, rfl, relaxed⟩

/-! ### What becomes of a field -/

/-- What becomes of the value of a field when its record is relaxed. -/
inductive Stands (field : Field) : Option Json → Option Json → Prop
  /-- the field was not there -/
  | missing : Stands field none none
  /-- the field has a relaxed value -/
  | relaxed {value given : Json} (h : Relaxed field.form value given) :
      Stands field (some value) (some given)
  /-- the field is left out -/
  | dropped {value : Json} (h : field.default = some value) : Stands field (some value) none

theorem Stands.refl (field : Field) (value : Option Json) : Stands field value value := by
  cases value with
  | none => exact .missing
  | some value => exact .relaxed .same

/-- A field that was not written is not there in a relaxed record either: only unknown names may be
added. -/
theorem Stands.eq_none {field : Field} {given : Option Json} (h : Stands field none given) :
    given = none := by
  cases h
  rfl

theorem lookup_eq_find? (fields : List (String × Json)) (name : String) :
    fields.lookup name = (fields.find? (·.1 == name)).map (·.2) := by
  induction fields with
  | nil => rfl
  | cons field fields ih =>
    obtain ⟨other, value⟩ := field
    by_cases hname : other = name
    · simp [hname]
    · have hother : (name == other) = false := beq_eq_false_iff_ne.2 (Ne.symm hname)
      simp [List.lookup_cons, hother, hname, ih]

/-- A name that no field has is not found. -/
theorem lookup_eq_none {name : String} {fields : List (String × Json)}
    (h : name ∉ fields.map (·.1)) : fields.lookup name = none := by
  rw [List.lookup_eq_none_iff]
  intro field hfield
  rw [bne_iff_ne]
  rintro rfl
  exact h (List.mem_map_of_mem hfield)

/-- **A field is found under its name** in a record without repeated names. -/
theorem lookup_eq_some {name : String} {value : Json} {fields : List (String × Json)}
    (hfields : (fields.map (·.1)).Nodup) (h : (name, value) ∈ fields) :
    fields.lookup name = some value := by
  induction fields with
  | nil => cases h
  | cons field fields ih =>
    obtain ⟨hfield, htail⟩ := List.nodup_cons.1 hfields
    obtain rfl | hmem := List.mem_cons.1 h
    · exact List.lookup_cons_self
    · have hname : name ≠ field.1 := fun heq =>
        hfield (List.mem_map.2 ⟨(name, value), hmem, heq⟩)
      obtain ⟨other, _⟩ := field
      simpa only [List.lookup_cons, beq_eq_false_iff_ne.2 hname] using ih htail hmem

/-- **A known field stands with a relaxed value, or is gone with its default.** The induction
follows the relaxed record, field by field; a field that is added has no known name and so does not
get in the way. -/
theorem RelaxedFields.stands {known : List Field} (hknown : (known.map (·.name)).Nodup)
    {field : Field} (hfield : field ∈ known) : {fields givens : List (String × Json)} →
    RelaxedFields known fields givens → (fields.map (·.1)).Nodup →
    Stands field (fields.lookup field.name) (givens.lookup field.name)
  | _, _, .same, _ => .refl field _
  | _, _, .keep other mem head tail, hfields => by
    have ih := tail.stands hknown hfield (List.nodup_cons.1 hfields).2
    by_cases hname : field.name = other.name
    · obtain rfl := List.inj_on_of_nodup_map hknown hfield mem hname
      simpa only [List.lookup_cons_self] using Stands.relaxed head
    · simpa only [List.lookup_cons, beq_eq_false_iff_ne.2 hname] using ih
  | _, _, .drop other mem default tail, hfields => by
    obtain ⟨hother, htail⟩ := List.nodup_cons.1 hfields
    have ih := tail.stands hknown hfield htail
    by_cases hname : field.name = other.name
    · obtain rfl := List.inj_on_of_nodup_map hknown hfield mem hname
      -- no other field has the name, so nothing takes the place of the one left out
      rw [lookup_eq_none hother] at ih
      rw [ih.eq_none, List.lookup_cons_self]
      exact .dropped default
    · simpa only [List.lookup_cons, beq_eq_false_iff_ne.2 hname] using ih
  | _, _, .add unknown tail, hfields => by
    have ih := tail.stands hknown hfield hfields
    simpa only [List.lookup_cons, beq_eq_false_iff_ne.2 (unknown field hfield)] using ih

/-! ### Readers -/

/-- The reader finds `a` in everything `written` may be relaxed to. -/
def Reads (form : Form) (read : Json → Option α) (a : α) (written : Json) : Prop :=
  ∀ given, Relaxed form written given → read given = some a

/-- What reads every relaxed version reads the snapshot as it was written, in particular. -/
theorem Reads.read_eq {form : Form} {read : Json → Option α} {a : α} {written : Json}
    (h : Reads form read a written) : read written = some a :=
  h written .same

/-- A plain value is read from relaxed versions as soon as it is read from what was written. -/
theorem Reads.plain {read : Json → Option α} {a : α} {written : Json} (h : read written = some a) :
    Reads .plain read a written := by
  intro given hgiven
  rw [hgiven.eq_of_plain, h]

theorem reads_string (text : String) : Reads .plain Json.string? text (.string text) :=
  .plain rfl

theorem reads_bool (value : Bool) : Reads .plain Json.bool? value (.bool value) :=
  .plain rfl

/-- A number is read back only if it is a machine word, which is what offsets, lines and columns are
held in. -/
theorem reads_word {n : Nat} (h : n < Text.wordSize) : Reads .plain Json.word? n (.nat n) := by
  have hword : Text.isWord n = true := decide_eq_true h
  exact .plain (if_pos hword)

/-- A reader that goes on once its first part is known. It takes the reader of a record apart, one
field after the other. -/
theorem read_bind {β : Type} {first : Option α} {next : α → Option β} {a : α} {b : β}
    (hfirst : first = some a) (hnext : next a = some b) : (first >>= next) = some b := by
  rw [hfirst]
  exact hnext

section Items

variable {form : Form} {read : Json → Option α} {write : α → Json}

/-- The items of a relaxed list are read one by one, and none of them is lost. The induction is on
the relaxed list. -/
theorem readAll_of_relaxed {bound : Nat} {items : List α}
    (hread : ∀ a ∈ items, Reads form read a (write a)) {givens : List Json}
    (h : RelaxedItems form (items.map write) givens)
    (small : ∀ given ∈ givens, sizeOf given < bound) :
    Json.readAll (fun json _ => read json) givens small = some items := by
  induction items generalizing givens with
  | nil =>
    cases h
    rfl
  | cons a items ih =>
    cases h with
    | cons head tail =>
      have hfirst := hread a List.mem_cons_self _ head
      have hrest := ih (fun b hb => hread b (List.mem_cons_of_mem a hb)) tail
        fun other hother => small other (List.mem_cons_of_mem _ hother)
      exact read_bind hfirst (read_bind hrest rfl)

/-- **A list is read item by item**, if each of its items can be read from relaxed versions. -/
theorem Reads.list {items : List α} (hread : ∀ a ∈ items, Reads form read a (write a)) :
    Reads (.list form) (fun json => json.list? fun json _ => read json) items
      (.ofList write items) := by
  intro given hgiven
  obtain ⟨givens, rfl, hgivens⟩ := hgiven.items
  exact readAll_of_relaxed hread hgivens _

end Items

/-! ### Records -/

/-- The fields of a record are the given ones, relaxed. -/
structure Opened (known : List Field) (fields : List (String × Json)) {bound : Nat}
    (record : Json.Record bound) : Prop where
  /-- no two known fields have the same name -/
  known_nodup : (known.map (·.name)).Nodup
  /-- no field is written twice -/
  fields_nodup : (fields.map (·.1)).Nodup
  /-- the record comes from the fields -/
  relaxed : RelaxedFields known fields record.fields

/-- A field that is looked up comes with a bound on its size, for the sake of termination. Without
it, this is the plain look-up. -/
theorem map_get? {bound : Nat} (record : Json.Record bound) (name : String) :
    (record.get? name).map (·.1) = record.fields.lookup name := by
  rw [lookup_eq_find?]
  unfold Json.Record.get?
  split
  next hfind => simp [hfind]
  next hfind => simp [hfind]

/-- A relaxed record is opened: it is an object, and every known field is found in it with a relaxed
value, or is missing and had its default. -/
theorem Relaxed.opened {known : List Field} {fields : List (String × Json)} {given : Json}
    (h : Relaxed (.record known) (.object fields) given) (hknown : (known.map (·.name)).Nodup)
    (hfields : (fields.map (·.1)).Nodup) :
    ∃ givens, given = .object givens ∧
      Opened known fields (Json.Record.mk givens Json.sizeOf_field_lt) := by
  obtain ⟨givens, rfl, hgivens⟩ := h.fields
  exact ⟨givens, rfl, hknown, hfields, hgivens⟩

namespace Opened

variable {known : List Field} {fields : List (String × Json)} {bound : Nat}
  {record : Json.Record bound} {form : Form} {value : Json} {read : Json → Option α}
  {write : α → Json} {a : α}

/-- A field that was written is found with a relaxed value, or is missing and had its default. The
readers of the different kinds of fields differ in what they make of the second case. -/
theorem found (h : Opened known fields record) {field : Field} (hfield : field ∈ known)
    (hvalue : (field.name, value) ∈ fields) :
    (∃ given, record.get? field.name = some given ∧ Relaxed field.form value given.1) ∨
      record.get? field.name = none ∧ field.default = some value := by
  have hstands := h.relaxed.stands h.known_nodup hfield h.fields_nodup
  rw [lookup_eq_some h.fields_nodup hvalue, ← map_get?] at hstands
  cases hget : record.get? field.name with
  | none =>
    rw [hget] at hstands
    cases hstands with
    | dropped hdefault => exact .inr ⟨rfl, hdefault⟩
  | some given =>
    rw [hget] at hstands
    cases hstands with
    | relaxed hrelaxed => exact .inl ⟨given, rfl, hrelaxed⟩

/-- A known field that was not written is missing. -/
theorem get?_eq_none (h : Opened known fields record) {field : Field} (hfield : field ∈ known)
    (hname : field.name ∉ fields.map (·.1)) : record.get? field.name = none := by
  have hstands := h.relaxed.stands h.known_nodup hfield h.fields_nodup
  rw [lookup_eq_none hname, ← map_get?] at hstands
  exact Option.map_eq_none_iff.1 hstands.eq_none

/-- **A required field** is always there, since it has no default that would allow leaving it
out. -/
theorem required (h : Opened known fields record) (name : String)
    (hfield : Field.required name form ∈ known) (hvalue : (name, value) ∈ fields)
    (hread : Reads form read a value) :
    record.required name (fun json _ => read json) = some a := by
  obtain ⟨given, hget, hgiven⟩ | ⟨-, hdefault⟩ := h.found hfield hvalue
  · have hget : record.get? name = some given := hget
    exact read_bind hget (hread given.1 hgiven)
  · cases hdefault

/-- **A field with a default** may be missing. Then what was written is the default, which is the
value the reader falls back to. -/
theorem withDefault (h : Opened known fields record) (name : String) {default : α} {written : Json}
    (hfield : Field.withDefault name written ∈ known) (hvalue : (name, value) ∈ fields)
    (hread : Reads .plain read a value) (hdefault : Reads .plain read default written) :
    record.withDefault name default (fun json _ => read json) = some a := by
  obtain ⟨given, hget, hgiven⟩ | ⟨hget, hwritten⟩ := h.found hfield hvalue
  · have hget : record.get? name = some given := hget
    simp only [Json.Record.withDefault, hget]
    exact hread given.1 hgiven
  · have hget : record.get? name = none := hget
    obtain rfl := Option.some.inj hwritten
    simp only [Json.Record.withDefault, hget]
    rw [← hdefault.read_eq, hread.read_eq]

/-- **An optional field** is null or missing when there is no value, and read back as such in both
cases. -/
theorem optional (h : Opened known fields record) (name : String) {choice : Option α}
    (hfield : Field.optional name form ∈ known)
    (hvalue : (name, Json.ofOption write choice) ∈ fields)
    (hread : ∀ a ∈ choice, Reads form read a (write a)) (hnull : read .null = none) :
    record.optional name (fun json _ => read json) = some choice := by
  obtain ⟨⟨given, small⟩, hget, hgiven⟩ | ⟨hget, hdefault⟩ := h.found hfield hvalue
  · have hget : record.get? name = some ⟨given, small⟩ := hget
    cases choice with
    | none =>
      obtain rfl : given = .null := Relaxed.eq_null hgiven
      simp only [Json.Record.optional, hget]
    | some a =>
      have hfound : read given = some a := hread a rfl given (Relaxed.of_nullable hgiven)
      -- null is no value of the reader, so the one found is not taken for an absent one
      cases given with
      | null => exact absurd (hnull.symm.trans hfound) (Option.some_ne_none a).symm
      | _ => simp only [Json.Record.optional, hget, hfound, Option.map_some]
  · have hget : record.get? name = none := hget
    cases choice with
    | none => simp only [Json.Record.optional, hget]
    | some a =>
      have hwritten : write a = .null := (Option.some.inj hdefault).symm
      have hfound := (hread a rfl).read_eq
      rw [hwritten, hnull] at hfound
      cases hfound

/-- A field that is written only for a value that is there. A missing field says that there is none,
as null would. -/
theorem optional_of_skipped (h : Opened known fields record) (name : String) {choice : Option α}
    (hfield : Field.optional name form ∈ known) (hvalue : ∀ a ∈ choice, (name, write a) ∈ fields)
    (hskip : choice = none → name ∉ fields.map (·.1))
    (hread : ∀ a ∈ choice, Reads form read a (write a)) (hnull : read .null = none) :
    record.optional name (fun json _ => read json) = some choice := by
  cases choice with
  | none =>
    have hget : record.get? name = none := h.get?_eq_none hfield (hskip rfl)
    simp only [Json.Record.optional, hget]
  | some a =>
    have hvalue : (name, Json.ofOption write (some a)) ∈ fields := hvalue a rfl
    exact h.optional name hfield hvalue hread hnull

/-- **A list field** may be missing when the list is empty. -/
theorem listD (h : Opened known fields record) (name : String) {items : List α}
    (hfield : Field.listed name form ∈ known) (hvalue : (name, Json.ofList write items) ∈ fields)
    (hread : ∀ a ∈ items, Reads form read a (write a)) :
    record.listD name (fun json _ => read json) = some items := by
  obtain ⟨given, hget, hgiven⟩ | ⟨hget, hdefault⟩ := h.found hfield hvalue
  · have hget : record.get? name = some given := hget
    simp only [Json.Record.listD, Json.Record.withDefault, hget]
    exact Reads.list hread given.1 hgiven
  · have hget : record.get? name = none := hget
    have hitems : items = [] := by
      have hitems := Option.some.inj hdefault
      simpa [Json.ofList] using hitems.symm
    simp only [Json.Record.listD, Json.Record.withDefault, hget, hitems]

/-- A field that is written only for a list with items. A missing field is read as a list without
any. -/
theorem listD_of_skipped (h : Opened known fields record) (name : String) {items : List α}
    (hfield : Field.listed name form ∈ known)
    (hvalue : items ≠ [] → (name, Json.ofList write items) ∈ fields)
    (hskip : items = [] → name ∉ fields.map (·.1))
    (hread : ∀ a ∈ items, Reads form read a (write a)) :
    record.listD name (fun json _ => read json) = some items := by
  by_cases hitems : items = []
  · have hget : record.get? name = none := h.get?_eq_none hfield (hskip hitems)
    simp only [Json.Record.listD, Json.Record.withDefault, hget, hitems]
  · exact h.listD name hfield (hvalue hitems) hread

end Opened

end Snapshot

end DeclLint
