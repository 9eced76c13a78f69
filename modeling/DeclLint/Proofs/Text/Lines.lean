import DeclLint.Proofs.Text.Slice
import DeclLint.Text.LineIndex
import Mathlib.Data.List.Basic

/-!
# The lines of a text

A line index is built character by character and asked about bytes. Here a text is read as its
bytes, and as the lines that the newlines among them cut it into, and what the index keeps is said
in these words:

* `LineIndex.starts_ofText` — the index holds 0 and the offset just after each newline byte. No byte
  of another character is a newline byte (`Text.newline_mem_utf8EncodeChar_iff`), so nothing is lost
  by going through the text by characters;
* `LineIndex.getElem?_starts_ofText` — a line begins where the lines before it end, each with its
  newline.
-/

namespace DeclLint

namespace Text

/-- The byte that ends a line. -/
def newline : UInt8 := 10

/-- The bytes of a text in UTF-8. -/
def bytes (text : String) : List UInt8 := text.toByteArray.data.toList

/-- The bytes of each line, without the newline. -/
def lines (text : String) : List (List UInt8) := (bytes text).splitOn newline

/-- The offset at which a line begins, behind the lines before it and their newlines; lines are
counted from 1. -/
def lineStart (text : String) (line : Nat) : Nat :=
  (((lines text).take (line - 1)).flatMap (· ++ [newline])).length

/-- The length of a line in bytes, without the newline; lines are counted from 1. -/
def lineLength (text : String) (line : Nat) : Nat := ((lines text).getD (line - 1) []).length

/-! ### Characters in bytes -/

/-- The bytes of a text are those of its characters, one after the other. -/
theorem bytes_eq_flatMap (text : String) :
    bytes text = text.toList.flatMap String.utf8EncodeChar := by
  rw [bytes, ← String.utf8Encode_toList, List.utf8Encode, List.data_toByteArray]

@[simp] theorem length_flatMap_utf8EncodeChar (cs : List Char) :
    (cs.flatMap String.utf8EncodeChar).length = byteCount cs := by
  induction cs with
  | nil => rfl
  | cons c cs ih =>
    rw [List.flatMap_cons, List.length_append, String.length_utf8EncodeChar, ih, byteCount_cons]

@[simp] theorem length_bytes (text : String) : (bytes text).length = text.utf8ByteSize := by
  rw [bytes_eq_flatMap, length_flatMap_utf8EncodeChar, byteCount_toList]

/-- A byte of a character is the character's code, or has its highest bit set. -/
theorem toNat_of_mem_utf8EncodeChar {c : Char} {b : UInt8} (h : b ∈ String.utf8EncodeChar c) :
    b.toNat = c.toNat ∨ 128 ≤ b.toNat := by
  simp only [String.utf8EncodeChar] at h
  split at h
  · obtain rfl := List.mem_singleton.1 h
    left
    rw [UInt8.toNat_ofNat', Nat.mod_eq_of_lt (by omega), Char.toNat]
  · right
    split at h
    · simp only [List.mem_cons, List.not_mem_nil, or_false] at h
      rcases h with rfl | rfl <;> rw [UInt8.toNat_ofNat'] <;> omega
    · split at h
      · simp only [List.mem_cons, List.not_mem_nil, or_false] at h
        rcases h with rfl | rfl | rfl <;> rw [UInt8.toNat_ofNat'] <;> omega
      · simp only [List.mem_cons, List.not_mem_nil, or_false] at h
        rcases h with rfl | rfl | rfl | rfl <;> rw [UInt8.toNat_ofNat'] <;> omega

/-- **Only a newline has a newline byte.** So lines may be counted in characters or in bytes. -/
theorem newline_mem_utf8EncodeChar_iff {c : Char} :
    newline ∈ String.utf8EncodeChar c ↔ c = '\n' := by
  constructor
  · intro h
    rcases toNat_of_mem_utf8EncodeChar h with hcode | hhigh
    · have hten : c.toNat = '\n'.toNat := hcode.symm
      exact Char.toNat_inj.1 hten
    · exact absurd hhigh (by decide)
  · rintro rfl
    decide

end Text

namespace LineIndex

open Text

/-! ### Where lines begin -/

/-- The index is built over characters. It finds the positions of newline bytes all the same, each
counted one up. -/
theorem startsAfter_eq_idxsOf (cs : List Char) (offset : Nat) :
    startsAfter offset cs = (cs.flatMap String.utf8EncodeChar).idxsOf newline (offset + 1) := by
  induction cs generalizing offset with
  | nil => rfl
  | cons c cs ih =>
    have hnext : offset + 1 + (String.utf8EncodeChar c).length = offset + c.utf8Size + 1 := by
      rw [String.length_utf8EncodeChar]
      omega
    rw [startsAfter, List.flatMap_cons, List.idxsOf_append, hnext, ← ih]
    split
    · next hc =>
      subst hc
      rfl
    · next hc =>
      have hnone : (String.utf8EncodeChar c).idxsOf newline (offset + 1) = [] := by
        rw [List.idxsOf_eq_nil_iff]
        intro b hb
        refine beq_eq_false_iff_ne.2 ?_
        rintro rfl
        exact hc (newline_mem_utf8EncodeChar_iff.1 hb)
      rw [hnone, List.nil_append]

/-- **The index holds 0 and the offset just after each newline byte.** A newline at the end of the
text begins a line that is empty. -/
theorem starts_ofText (text : String) :
    (ofText text).starts = 0 :: (bytes text).idxsOf newline 1 := by
  rw [ofText, startsAfter_eq_idxsOf, bytes_eq_flatMap]

/-- **The index counts the lines of the text**, of which there is at least one. -/
theorem lineCount_ofText (text : String) : (ofText text).lineCount = (lines text).length := by
  rw [lineCount, starts_ofText, List.length_cons, List.length_idxsOf, lines]
  generalize bytes text = bs
  induction bs with
  | nil => rfl
  | cons b bs ih =>
    rw [List.splitOn_cons_eq_if_modifyHead, List.count_cons]
    split
    · rw [List.length_cons, ← ih]
    · rw [List.length_modifyHead, ← ih]

/-- The offsets just after the newlines, line by line, when the first byte stands at `offset`. -/
theorem getElem?_cons_idxsOf {bs : List UInt8} {offset i : Nat}
    (h : i < (bs.splitOn newline).length) :
    (offset :: bs.idxsOf newline (offset + 1))[i]? =
      some (offset + (((bs.splitOn newline).take i).flatMap (· ++ [newline])).length) := by
  induction bs generalizing offset i with
  | nil =>
    obtain rfl : i = 0 := by simpa using h
    rfl
  | cons b bs ih =>
    cases i with
    | zero => simp
    | succ i =>
      rw [List.splitOn_cons_eq_if_modifyHead] at h ⊢
      rw [List.getElem?_cons_succ, List.idxsOf_cons]
      split
      · -- the newline ends an empty line
        next hb =>
        rw [if_pos hb] at h
        rw [ih (by simpa using h)]
        simp only [List.take_succ_cons, List.flatMap_cons, List.length_append, List.length_nil,
          List.length_singleton, Option.some.injEq]
        omega
      · -- any other byte makes the first line longer
        next hb =>
        rw [if_neg hb] at h
        obtain ⟨line, rest, hsplit⟩ := List.exists_cons_of_ne_nil (List.splitOn_ne_nil newline bs)
        have hnext := @ih (offset + 1) (i + 1) (by simpa using h)
        rw [List.getElem?_cons_succ] at hnext
        rw [hnext, hsplit]
        simp only [List.modifyHead_cons, List.take_succ_cons, List.flatMap_cons, List.length_append,
          List.length_cons, Option.some.injEq]
        omega

/-- **A line begins where the lines before it end**, each with its newline. -/
theorem getElem?_starts_ofText {text : String} {line : Nat} (hpos : 1 ≤ line)
    (hle : line ≤ (lines text).length) :
    (ofText text).starts[line - 1]? = some (lineStart text line) := by
  have hlt : line - 1 < ((bytes text).splitOn newline).length := by
    rw [lines] at hle
    omega
  rw [starts_ofText, getElem?_cons_idxsOf hlt, Nat.zero_add]
  rfl

@[simp] theorem length_ofText (text : String) : (ofText text).length = text.utf8ByteSize :=
  byteCount_toList text

end LineIndex

/-! ### Places -/

namespace Text

/-- The place exists: there is such a line, and the column lies in it or just behind its last byte.
Both are counted from 1. -/
structure IsPlace (text : String) (line column : Nat) : Prop where
  /-- lines are counted from 1 -/
  line_pos : 1 ≤ line
  /-- the text has the line -/
  line_le : line ≤ (lines text).length
  /-- columns are counted from 1 -/
  column_pos : 1 ≤ column
  /-- the line has the column -/
  column_le : column - 1 ≤ lineLength text line

/-- The offset of a place. -/
def placeOffset (text : String) (line column : Nat) : Nat := lineStart text line + (column - 1)

/-- Later lines begin later, or nowhere before. -/
theorem lineStart_mono (text : String) {line line' : Nat} (h : line ≤ line') :
    lineStart text line ≤ lineStart text line' := by
  obtain ⟨more, hmore⟩ : ∃ more, line' - 1 = (line - 1) + more :=
    ⟨(line' - 1) - (line - 1), by omega⟩
  rw [lineStart, lineStart, hmore, List.take_add, List.flatMap_append, List.length_append]
  exact Nat.le_add_right _ _

/-- The next line begins behind the newline. -/
theorem lineStart_succ {text : String} {line : Nat} (hpos : 1 ≤ line)
    (hle : line ≤ (lines text).length) :
    lineStart text (line + 1) = lineStart text line + lineLength text line + 1 := by
  obtain ⟨i, rfl⟩ : ∃ i, line = i + 1 := ⟨line - 1, by omega⟩
  have hi : i < (lines text).length := by omega
  have hline : (lines text).getD i [] = (lines text)[i] := (List.getElem_eq_getD []).symm
  simp only [lineStart, lineLength, Nat.add_sub_cancel]
  rw [List.take_succ_eq_append_getElem hi, hline, List.flatMap_append, List.flatMap_singleton,
    List.length_append, List.length_append, List.length_singleton, Nat.add_assoc]

/-- With a newline behind the text, every line has its newline. -/
theorem flatMap_lines (text : String) :
    (lines text).flatMap (· ++ [newline]) = bytes text ++ [newline] := by
  rw [lines]
  generalize bytes text = bs
  induction bs with
  | nil => rfl
  | cons b bs ih =>
    rw [List.splitOn_cons_eq_if_modifyHead]
    split
    · next hb =>
      rw [List.flatMap_cons, ih, beq_iff_eq.1 hb]
      rfl
    · obtain ⟨line, rest, hsplit⟩ := List.exists_cons_of_ne_nil (List.splitOn_ne_nil newline bs)
      rw [hsplit, List.flatMap_cons] at ih
      rw [hsplit, List.modifyHead_cons, List.flatMap_cons, List.cons_append, List.cons_append, ih,
        List.cons_append]

/-- Behind the last line there would be room for one newline more, which the text does not have. -/
theorem lineStart_behind_last (text : String) :
    lineStart text ((lines text).length + 1) = text.utf8ByteSize + 1 := by
  rw [lineStart, Nat.add_sub_cancel, List.take_length, flatMap_lines, List.length_append,
    length_bytes, List.length_singleton]

namespace IsPlace

variable {text : String} {line column line' column' : Nat}

/-- A place comes before the next line begins. The newline itself is a place of the line that it
ends. -/
theorem lt_lineStart_succ (h : IsPlace text line column) :
    placeOffset text line column < lineStart text (line + 1) := by
  have hle := h.column_le
  rw [lineStart_succ h.line_pos h.line_le, placeOffset]
  omega

/-- No place lies behind the end of the text, which is a place itself. -/
theorem offset_le_size (h : IsPlace text line column) :
    placeOffset text line column ≤ text.utf8ByteSize := by
  have hlt := h.lt_lineStart_succ
  have hmono := lineStart_mono text (Nat.add_le_add_right h.line_le 1)
  rw [lineStart_behind_last] at hmono
  omega

/-- Of two places with one offset, neither is on an earlier line. Each is before the beginning of
the line behind its own. -/
theorem line_le_of_offset_eq (h : IsPlace text line column)
    (heq : placeOffset text line column = placeOffset text line' column') : line' ≤ line := by
  by_contra hlt
  have hnext := h.lt_lineStart_succ
  have hmono := lineStart_mono text (show line + 1 ≤ line' by omega)
  rw [heq, placeOffset] at hnext
  omega

/-- **Places with one offset are one place**, which makes the way back from an offset to a line and
a column well-defined. -/
theorem unique (h : IsPlace text line column) (h' : IsPlace text line' column')
    (heq : placeOffset text line column = placeOffset text line' column') :
    line = line' ∧ column = column' := by
  obtain rfl : line = line' :=
    Nat.le_antisymm (h'.line_le_of_offset_eq heq.symm) (h.line_le_of_offset_eq heq)
  have hpos := h.column_pos
  have hpos' := h'.column_pos
  rw [placeOffset, placeOffset] at heq
  exact ⟨rfl, by omega⟩

end IsPlace

end Text

end DeclLint
