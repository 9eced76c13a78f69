import DeclLint.Proofs.Text.LineIndex
import DeclLint.Rule.Context
import DeclLint.Symbol.Table
import Mathlib.Data.List.DropRight

/-!
# Indents

`UnitContext.indentOf` goes back from an offset to the newline before it and takes the spaces and
tabs that stand behind. The line index has the beginning of each line in its table. Both find the
same line:

* **the newline before an offset** — the index says that the line of the offset begins just behind
  it (`LineIndex.lineStart_position`). One side looks for a character and the other counts bytes,
  but the bytes behind the last newline byte are those of the characters behind the last newline
  (`Text.rtakeWhile_flatMap_utf8EncodeChar`);
* **the indent of a line** — is the longest run of spaces and tabs at its beginning
  (`Text.IsIndentAt`). There is only one, so it depends on nothing but the line
  (`Text.IsIndentAt.unique`).
-/

namespace DeclLint

namespace Text

/-! ### Runs of spaces and tabs -/

/-- A run of spaces and tabs that stands in the text at a byte offset. -/
structure IsRunAt (text : String) (start : Nat) (run : String) : Prop where
  /-- the run stands at the offset -/
  stands : slice? text start (start + run.utf8ByteSize) = some run
  /-- it is made of spaces and tabs -/
  blank : ∀ c ∈ run.toList, c = ' ' ∨ c = '\t'

/-- The longest run of spaces and tabs that stands in the text at a byte offset. -/
structure IsIndentAt (text : String) (start : Nat) (run : String) : Prop
    extends IsRunAt text start run where
  /-- no other run is longer -/
  longest : ∀ other, IsRunAt text start other → other.utf8ByteSize ≤ run.utf8ByteSize

namespace IsIndentAt

variable {text run other : String} {start : Nat}

/-- **A line has one indent**: of two runs from one place, neither can be longer than the other. -/
theorem unique (h : IsIndentAt text start run) (h' : IsIndentAt text start other) :
    run = other := by
  have hsize : run.utf8ByteSize = other.utf8ByteSize :=
    Nat.le_antisymm (h'.longest run h.toIsRunAt) (h.longest other h'.toIsRunAt)
  have hstands := h.stands
  rw [hsize, h'.stands] at hstands
  exact (Option.some.inj hstands).symm

/-- **Behind an indent** there is no space and no tab: the run would go on. -/
theorem next_ne (h : IsIndentAt text start run) {c : Char}
    (hnext : slice? text (start + run.utf8ByteSize) (start + run.utf8ByteSize + c.utf8Size) =
      some (String.singleton c)) : c ≠ ' ' ∧ c ≠ '\t' := by
  rw [← not_or]
  intro hblank
  have hsize : (run ++ String.singleton c).utf8ByteSize = run.utf8ByteSize + c.utf8Size := by
    rw [String.utf8ByteSize_append, String.utf8ByteSize_singleton]
  have hlonger : IsRunAt text start (run ++ String.singleton c) := by
    refine ⟨?_, ?_⟩
    · rw [hsize, ← Nat.add_assoc]
      exact slice?_append h.stands hnext
    · intro d hd
      rw [String.toList_append, List.mem_append] at hd
      rcases hd with hd | hd
      · exact h.blank d hd
      · obtain rfl : d = c := by simpa using hd
        exact hblank
  have hle := h.longest _ hlonger
  have hpos := c.utf8Size_pos
  omega

end IsIndentAt

/-- The spaces and tabs that a rest of the text begins with are its indent. -/
theorem isIndentAt_takeWhile {text : String} {before rest : List Char}
    (htext : text.toList = before ++ rest) :
    IsIndentAt text (byteCount before)
      (String.ofList (rest.takeWhile fun c => c == ' ' || c == '\t')) := by
  refine ⟨⟨?_, ?_⟩, ?_⟩
  · refine slice?_eq_some_iff.2 ⟨String.ofList before,
      String.ofList (rest.dropWhile fun c => c == ' ' || c == '\t'), ?_,
      utf8ByteSize_ofList before, ?_⟩
    · rw [String.append_assoc, ← String.ofList_append, List.takeWhile_append_dropWhile,
        ← String.ofList_append, ← htext, String.ofList_toList]
    · rw [String.utf8ByteSize_append, utf8ByteSize_ofList before]
  · intro c hc
    rw [String.toList_ofList] at hc
    have htaken := List.mem_takeWhile_imp hc
    rwa [Bool.or_eq_true, beq_iff_eq, beq_iff_eq] at htaken
  · -- the rest begins with any other run, which is taken as a whole
    rintro other ⟨hstands, hblank⟩
    obtain ⟨before', after, htext', hsize, -⟩ := slice?_eq_some_iff.1 hstands
    have hcuts : before ++ rest = before'.toList ++ (other.toList ++ after.toList) := by
      rw [← htext, htext', String.toList_append, String.toList_append, List.append_assoc]
    have hplace : byteCount before = byteCount before'.toList := by
      rw [byteCount_toList, hsize]
    obtain ⟨-, rfl⟩ := cut_unique hcuts hplace
    have hall : ∀ c ∈ other.toList, (c == ' ' || c == '\t') = true := by
      intro c hc
      rw [Bool.or_eq_true, beq_iff_eq, beq_iff_eq]
      exact hblank c hc
    rw [List.takeWhile_append_of_pos hall, utf8ByteSize_ofList, byteCount_append, byteCount_toList]
    exact Nat.le_add_right _ _

/-! ### The newline before an offset -/

/-- The bytes behind the last newline byte are those of the characters behind the last newline. -/
theorem rtakeWhile_flatMap_utf8EncodeChar (cs : List Char) :
    (cs.flatMap String.utf8EncodeChar).rtakeWhile (· != newline) =
      (cs.rtakeWhile (· != '\n')).flatMap String.utf8EncodeChar := by
  induction cs using List.reverseRecOn with
  | nil => rfl
  | append_singleton cs c ih =>
    rw [List.flatMap_append, List.flatMap_singleton]
    by_cases hc : c = '\n'
    · subst hc
      rw [List.rtakeWhile_concat_neg _ _ _ (by decide)]
      exact List.rtakeWhile_concat_neg _ _ _ (by decide)
    · have hall : ∀ b ∈ (String.utf8EncodeChar c).reverse, (b != newline) = true := by
        intro b hb
        refine bne_iff_ne.2 ?_
        rintro rfl
        exact hc (newline_mem_utf8EncodeChar_iff.1 (List.mem_reverse.1 hb))
      have hkept : (cs ++ [c]).rtakeWhile (· != '\n') = cs.rtakeWhile (· != '\n') ++ [c] :=
        List.rtakeWhile_concat_pos _ _ _ (bne_iff_ne.2 hc)
      rw [hkept, List.flatMap_append, List.flatMap_singleton, ← ih, List.rtakeWhile,
        List.reverse_append, List.takeWhile_append_of_pos hall, List.reverse_append,
        List.reverse_reverse]
      rfl

end Text

namespace LineIndex

open Text

/-- The bytes before a cut are those of the characters before it. -/
theorem before_of_cut {text : String} {before after : List Char}
    (htext : text.toList = before ++ after) :
    LineIndex.before text (byteCount before) = before.flatMap String.utf8EncodeChar := by
  have hle : byteCount before ≤ text.utf8ByteSize := (isBoundary_iff.2 ⟨_, _, htext, rfl⟩).le_size
  rw [LineIndex.before, Nat.min_eq_left hle, bytes_eq_flatMap, htext, List.flatMap_append,
    List.take_left' (length_flatMap_utf8EncodeChar before)]

/-- **The index finds the newline before an offset**: behind it the line of the offset begins.
Without one, the line begins with the text. -/
theorem lineStart_position {text : String} {before after : List Char}
    (htext : text.toList = before ++ after) :
    lineStart text ((ofText text).position (byteCount before)).line =
      byteCount (before.rdropWhile (· != '\n')) := by
  have hle : byteCount before ≤ text.utf8ByteSize := (isBoundary_iff.2 ⟨_, _, htext, rfl⟩).le_size
  -- the column counts the bytes behind the newline
  have hbehind :
      ((LineIndex.before text (byteCount before)).reverse.takeWhile (· != newline)).length =
      byteCount (before.rtakeWhile (· != '\n')) := by
    rw [← length_flatMap_utf8EncodeChar (before.rtakeWhile _), ← rtakeWhile_flatMap_utf8EncodeChar,
      before_of_cut htext, List.rtakeWhile, List.length_reverse]
  have hsplit : byteCount before = byteCount (before.rdropWhile (· != '\n')) +
      byteCount (before.rtakeWhile (· != '\n')) := by
    rw [← byteCount_append, List.rdropWhile_append_rtakeWhile]
  obtain ⟨line, column, hposition, -, hoffset⟩ := exists_place text (byteCount before)
  have hcolumn : column = 1 + byteCount (before.rtakeWhile (· != '\n')) := by
    rw [← hbehind]
    exact congrArg Position.column (hposition.symm.trans (position_ofText text _))
  rw [placeOffset, Nat.min_eq_left hle] at hoffset
  rw [hposition]
  change lineStart text line = _
  omega

theorem offsetFor_line_position {text : String} {before after : List Char}
    (hsize : text.utf8ByteSize < wordSize) (htext : text.toList = before ++ after) :
    (ofText text).offsetFor ((ofText text).position (byteCount before)).line 1 =
      .ok (byteCount (before.rdropWhile (· != '\n'))) := by
  obtain ⟨line, column, hposition, hplace, -⟩ := exists_place text (byteCount before)
  have hstart := lineStart_position htext
  rw [hposition] at hstart ⊢
  have hfirst : IsPlace text line 1 :=
    ⟨hplace.line_pos, hplace.line_le, Nat.le_refl 1, Nat.zero_le _⟩
  exact (offsetFor_of_isPlace hsize hfirst).trans (congrArg Except.ok hstart)

end LineIndex

namespace UnitContext

open Text

/-! ### Indents of lines -/

/-- What comes before the last line, and the line. -/
theorem rdropWhile_append_lastLine (before after : List Char) :
    before.rdropWhile (· != '\n') ++ lastLine before after = before ++ after := by
  have hbefore := List.rdropWhile_append_rtakeWhile (p := (· != '\n')) (l := before)
  rw [lastLine, ← List.append_assoc]
  exact congrArg (· ++ after) hbefore

variable {context : UnitContext} {source : String}

/-- **The indent of a line** stands where the index says that the line begins. It is read off the
text around the range, and not through the index, so there is something to show. -/
theorem isIndentAt_indentOf (hsource : context.unit.source = some source)
    (hsize : source.utf8ByteSize < wordSize) {range : Range}
    (hstart : IsBoundary source range.start.offset) :
    ∃ start, (LineIndex.ofText source).offsetFor
        ((LineIndex.ofText source).position range.start.offset).line 1 = .ok start ∧
      IsIndentAt source start (context.indentOf range) := by
  obtain ⟨before, after, htext, hoffset⟩ := isBoundary_iff.1 hstart
  have hcut : context.unit.source.bind (splitAtByte range.start.offset ·.toList) =
      some (before, after) := by
    rw [hsource, Option.bind_some, splitAtByte_eq_some_iff]
    exact ⟨htext, hoffset⟩
  have hline : source.toList = before.rdropWhile (· != '\n') ++ lastLine before after := by
    rw [htext, rdropWhile_append_lastLine]
  rw [indentOf, hcut, ← hoffset, LineIndex.offsetFor_line_position hsize htext]
  exact ⟨_, rfl, isIndentAt_takeWhile hline⟩

/-- **An indent is the white space a line begins with.** For every range that starts on a character
boundary of the source, it is the longest run of spaces and tabs from where the line index puts the
beginning of the line on. Behind it there is neither a space nor a tab, and ranges that start on one
line have one indent. The bytes of a text in memory are counted by machine words. -/
theorem indentOf_is_longest_run (context : UnitContext) {source : String}
    (hsource : context.unit.source = some source) (hsize : source.utf8ByteSize < wordSize) :
    let index := LineIndex.ofText source
    (∀ range : Range, IsBoundary source range.start.offset →
      ∃ start, index.offsetFor (index.position range.start.offset).line 1 = .ok start ∧
        let stop := start + (context.indentOf range).utf8ByteSize
        IsIndentAt source start (context.indentOf range) ∧
        ∀ c, slice? source stop (stop + c.utf8Size) = some (String.singleton c) →
          c ≠ ' ' ∧ c ≠ '\t') ∧
    ∀ range range' : Range, IsBoundary source range.start.offset →
      IsBoundary source range'.start.offset →
      (index.position range.start.offset).line = (index.position range'.start.offset).line →
      context.indentOf range = context.indentOf range' := by
  intro index
  refine ⟨?_, ?_⟩
  · intro range hstart
    obtain ⟨start, hline, hindent⟩ := isIndentAt_indentOf hsource hsize hstart
    exact ⟨start, hline, hindent, fun c hnext => hindent.next_ne hnext⟩
  · intro range range' hstart hstart' hline
    obtain ⟨start, hfound, hindent⟩ := isIndentAt_indentOf hsource hsize hstart
    obtain ⟨start', hfound', hindent'⟩ := isIndentAt_indentOf hsource hsize hstart'
    obtain rfl : start = start' := by
      rw [← hline, hfound] at hfound'
      exact Except.ok.inj hfound'
    exact hindent.unique hindent'

/-- A line behind a character of two bytes. Its indent is the same for the offset of its newline and
for one inside the indent. -/
theorem indentOf_behind_two_bytes :
    let source := "é (\n \tä\n"
    let context : UnitContext :=
      ⟨{ path := ⟨"Api.kt"⟩, source := some source }, SymbolTable.empty.oracle⟩
    let range (offset : Nat) : Range := ⟨⟨0, 0, offset⟩, ⟨0, 0, offset⟩⟩
    source.utf8ByteSize < wordSize ∧ IsBoundary source 9 ∧ IsBoundary source 6 ∧
      context.indentOf (range 9) = " \t" ∧ IsIndentAt source 5 (context.indentOf (range 9)) ∧
      slice? source 7 9 = some "ä" ∧ context.indentOf (range 9) = context.indentOf (range 6) := by
  intro source context range
  have hsize : source.utf8ByteSize < wordSize := by decide
  have hnewline : IsBoundary source 9 := by decide
  have hinside : IsBoundary source 6 := by decide
  obtain ⟨hlongest, hline⟩ := indentOf_is_longest_run context rfl hsize
  have hstart : (LineIndex.ofText source).offsetFor
      ((LineIndex.ofText source).position (range 9).start.offset).line 1 = .ok 5 := by decide
  obtain ⟨start, hfound, hindent, -⟩ := hlongest (range 9) hnewline
  obtain rfl : 5 = start := Except.ok.inj (hstart.symm.trans hfound)
  exact ⟨hsize, hnewline, hinside, by decide, hindent, by decide,
    hline (range 9) (range 6) hnewline hinside (by decide)⟩

end UnitContext

end DeclLint
