import DeclLint.Text.Bytes

/-!
# Boundaries and slices

A text may be cut at a byte offset exactly when the offset lies in it and between two characters.
The string library calls such an offset a valid position. This module ties the cuts `splitAtByte`
makes to valid positions and defines slices of a text by byte offsets:

* `IsBoundary` — an offset at which a text may be cut;
* `splitAtByte_eq_some_iff` — a cut is a decomposition of the text;
* `slice?` — the text between two offsets, which is there exactly when the offsets are in order and
  both are boundaries (`slice?_isSome_iff`). Neighbouring slices join (`slice?_append`).
-/

namespace DeclLint

namespace Text

/-- The offset lies in the text, between two of its characters or at one of its ends. -/
def IsBoundary (text : String) (offset : Nat) : Prop := String.Pos.Raw.IsValid text ⟨offset⟩

instance (text : String) (offset : Nat) : Decidable (IsBoundary text offset) :=
  inferInstanceAs (Decidable (String.Pos.Raw.IsValid text ⟨offset⟩))

/-- The text from one byte offset up to another. -/
def slice? (text : String) (start stop : Nat) : Option String :=
  if start ≤ stop then do
    let (_, rest) ← splitAtByte start text.toList
    let (piece, _) ← splitAtByte (stop - start) rest
    return String.ofList piece
  else
    none

/-! ### Cuts are decompositions -/

theorem utf8ByteSize_ofList (cs : List Char) : (String.ofList cs).utf8ByteSize = byteCount cs := by
  induction cs with
  | nil => rfl
  | cons c cs ih =>
    rw [String.ofList_cons, String.utf8ByteSize_append, String.utf8ByteSize_singleton, ih]
    rfl

@[simp] theorem byteCount_toList (text : String) : byteCount text.toList = text.utf8ByteSize := by
  rw [← utf8ByteSize_ofList, String.ofList_toList]

/-- Every character has a byte, so that only the empty list has none. -/
theorem byteCount_eq_zero {cs : List Char} (h : byteCount cs = 0) : cs = [] := by
  cases cs with
  | nil => rfl
  | cons c cs =>
    have hpos : 0 < c.utf8Size := c.utf8Size_pos
    rw [byteCount_cons] at h
    omega

/-- **A cut is a decomposition** into a part of the length asked for and the rest. There is none
inside a character. -/
theorem splitAtByte_eq_some_iff {offset : Nat} {cs before after : List Char} :
    splitAtByte offset cs = some (before, after) ↔
      cs = before ++ after ∧ byteCount before = offset := by
  constructor
  · exact eq_append_of_splitAtByte
  · rintro ⟨rfl, rfl⟩
    exact splitAtByte_append before after

/-- Of two cuts of one text, the earlier one cuts the part before the later one. What lies between
them is then a part of its own. -/
theorem exists_append_of_byteCount_le {before after before' after' : List Char}
    (h : before ++ after = before' ++ after') (hle : byteCount before ≤ byteCount before') :
    ∃ between, before' = before ++ between ∧ after = between ++ after' := by
  rcases List.append_eq_append_iff.1 h with ⟨between, hb, ha⟩ | ⟨between, hb, ha⟩
  · exact ⟨between, hb, ha⟩
  · -- the other way round nothing lies between the cuts
    rw [hb, byteCount_append] at hle
    obtain rfl : between = [] := byteCount_eq_zero (by omega)
    exact ⟨[], by simpa using hb.symm, by simpa using ha.symm⟩

/-- Cuts of one text at one place are the same, since no character is without bytes. -/
theorem cut_unique {before after before' after' : List Char}
    (h : before ++ after = before' ++ after') (hplace : byteCount before = byteCount before') :
    before = before' ∧ after = after' := by
  have hcut := splitAtByte_append before after
  rw [h, hplace, splitAtByte_append] at hcut
  obtain ⟨rfl, rfl⟩ := Prod.mk.inj (Option.some.inj hcut)
  exact ⟨rfl, rfl⟩

/-! ### Boundaries -/

/-- **Boundaries are the offsets at which a text can be cut**: the beginning, the end, and all
between two characters. -/
theorem isBoundary_iff {text : String} {offset : Nat} :
    IsBoundary text offset ↔
      ∃ before after, text.toList = before ++ after ∧ byteCount before = offset := by
  rw [IsBoundary, String.Pos.Raw.isValid_iff_exists_append]
  constructor
  · rintro ⟨before, after, rfl, hpos⟩
    refine ⟨before.toList, after.toList, String.toList_append, ?_⟩
    rw [byteCount_toList]
    exact (congrArg String.Pos.Raw.byteIdx hpos).symm
  · rintro ⟨before, after, htext, rfl⟩
    refine ⟨String.ofList before, String.ofList after, ?_, ?_⟩
    · rw [← String.ofList_append, ← htext, String.ofList_toList]
    · rw [String.rawEndPos, utf8ByteSize_ofList]

/-- No boundary lies behind the end of the text. -/
theorem IsBoundary.le_size {text : String} {offset : Nat} (h : IsBoundary text offset) :
    offset ≤ text.utf8ByteSize := by
  obtain ⟨before, after, htext, rfl⟩ := isBoundary_iff.1 h
  rw [← byteCount_toList, htext, byteCount_append]
  omega

/-! ### Slices -/

/-- **A slice is a middle part**: what is before it has `start` bytes, and up to its end there are
`stop`. -/
theorem slice?_eq_some_iff {text piece : String} {start stop : Nat} :
    slice? text start stop = some piece ↔
      ∃ before after, text = before ++ piece ++ after ∧ before.utf8ByteSize = start ∧
        (before ++ piece).utf8ByteSize = stop := by
  constructor
  · intro h
    rw [slice?] at h
    split at h
    · obtain ⟨⟨before, rest⟩, hstart, h⟩ := Option.bind_eq_some_iff.1 h
      obtain ⟨⟨middle, after⟩, hstop, h⟩ := Option.bind_eq_some_iff.1 h
      obtain rfl := Option.some.inj h
      obtain ⟨htext, hbefore⟩ := splitAtByte_eq_some_iff.1 hstart
      obtain ⟨rfl, hmiddle⟩ := splitAtByte_eq_some_iff.1 hstop
      refine ⟨String.ofList before, String.ofList after, ?_, ?_, ?_⟩
      · rw [← String.ofList_append, ← String.ofList_append, List.append_assoc, ← htext,
          String.ofList_toList]
      · rw [utf8ByteSize_ofList, hbefore]
      · rw [← String.ofList_append, utf8ByteSize_ofList, byteCount_append]
        omega
    · cases h
  · rintro ⟨before, after, rfl, rfl, rfl⟩
    have hle : before.utf8ByteSize ≤ (before ++ piece).utf8ByteSize := by
      rw [String.utf8ByteSize_append]
      omega
    have hstart : splitAtByte before.utf8ByteSize (before ++ piece ++ after).toList =
        some (before.toList, piece.toList ++ after.toList) := by
      rw [splitAtByte_eq_some_iff]
      simp
    have hstop : splitAtByte ((before ++ piece).utf8ByteSize - before.utf8ByteSize)
        (piece.toList ++ after.toList) = some (piece.toList, after.toList) := by
      rw [splitAtByte_eq_some_iff]
      simp
    rw [slice?, if_pos hle, hstart]
    simp only [Option.bind_eq_bind, Option.bind_some, hstop, Option.pure_def, String.ofList_toList]

/-- **Neighbouring slices join** to the slice from the start of the one to the end of the other. -/
theorem slice?_append {text piece next : String} {start middle stop : Nat}
    (hpiece : slice? text start middle = some piece) (hnext : slice? text middle stop = some next) :
    slice? text start stop = some (piece ++ next) := by
  obtain ⟨before, rest, htext, hstart, hmiddle⟩ := slice?_eq_some_iff.1 hpiece
  obtain ⟨before', after, htext', hmiddle', hstop⟩ := slice?_eq_some_iff.1 hnext
  -- both slices cut the text at `middle`
  have hcuts :
      (before ++ piece).toList ++ rest.toList = before'.toList ++ (next ++ after).toList := by
    rw [← String.toList_append, ← String.toList_append, ← htext, ← String.append_assoc, ← htext']
  have hplace : byteCount (before ++ piece).toList = byteCount before'.toList := by
    rw [byteCount_toList, byteCount_toList, hmiddle, hmiddle']
  obtain rfl : before ++ piece = before' := String.toList_inj.1 (cut_unique hcuts hplace).1
  refine slice?_eq_some_iff.2 ⟨before, after, ?_, hstart, ?_⟩
  · rw [htext', ← String.append_assoc]
  · rw [← hstop, ← String.append_assoc]

/-- **A slice exists** exactly when its ends are in order and both are boundaries. An end past the
text or inside a character gives no slice. -/
theorem slice?_isSome_iff {text : String} {start stop : Nat} :
    (slice? text start stop).isSome ↔
      start ≤ stop ∧ IsBoundary text start ∧ IsBoundary text stop := by
  rw [Option.isSome_iff_exists]
  constructor
  · rintro ⟨piece, h⟩
    obtain ⟨before, after, rfl, rfl, rfl⟩ := slice?_eq_some_iff.1 h
    refine ⟨by simp, isBoundary_iff.2 ⟨before.toList, piece.toList ++ after.toList, ?_, ?_⟩,
      isBoundary_iff.2 ⟨(before ++ piece).toList, after.toList, ?_, ?_⟩⟩ <;> simp
  · rintro ⟨hle, hstart, hstop⟩
    obtain ⟨before, rest, htext, rfl⟩ := isBoundary_iff.1 hstart
    obtain ⟨before', after, htext', rfl⟩ := isBoundary_iff.1 hstop
    obtain ⟨piece, rfl, rfl⟩ := exists_append_of_byteCount_le (htext.symm.trans htext') hle
    refine ⟨String.ofList piece, slice?_eq_some_iff.2
      ⟨String.ofList before, String.ofList after, ?_, utf8ByteSize_ofList before, ?_⟩⟩
    · rw [← String.ofList_append, ← String.ofList_append, ← htext', String.ofList_toList]
    · rw [← String.ofList_append, utf8ByteSize_ofList]

end Text

end DeclLint
