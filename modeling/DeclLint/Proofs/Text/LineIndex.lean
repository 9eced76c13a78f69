import DeclLint.Proofs.Text.Lines
import DeclLint.Proofs.Text.Lookup
import Mathlib.Data.List.Induction

/-!
# Offsets and positions

A line index turns offsets into positions and back. What it answers is compared with the bytes and
the lines of the text:

* **positions are looked up** — any answer to the look-up of an offset leads to its position, so it
  is enough to count the lines that begin no later (`position_of_answers`, `position_eq_reached`);
* **positions count** — the line of an offset is one more than the newlines before it, the column
  one more than the bytes behind the last of these (`position_ofText`). So positions are ordered as
  their offsets are, and two offsets are on one line when no newline lies between them;
* **positions are places** — a position names a place of the text, the only one with its offset
  (`exists_place`), and `offsetFor` goes from a place to its offset (`offsetFor_of_isPlace`);
* **columns past the end** — are cut off at the end of the text, but only while the start of the
  line and the column add up to a machine word (`offsetFor_of_fits`). A larger sum overflows, and
  there is no offset at all (`offsetFor_of_overflows`).
-/

namespace DeclLint

open Text

namespace LineIndex

/-! ### The bytes before an offset -/

/-- The bytes before an offset, which is cut off at the end of the text. -/
def before (text : String) (offset : Nat) : List UInt8 :=
  (bytes text).take (min offset text.utf8ByteSize)

/-- The bytes between two offsets, which are cut off at the end of the text. -/
def between (text : String) (start stop : Nat) : List UInt8 :=
  (before text stop).drop (min start text.utf8ByteSize)

/-- There are as many bytes before an offset as it says, or all bytes of the text if it lies behind
them. -/
theorem length_before (text : String) (offset : Nat) :
    (before text offset).length = min offset text.utf8ByteSize := by
  rw [before, List.length_take, length_bytes]
  omega

theorem before_eq_append_between (text : String) {start stop : Nat} (h : start ≤ stop) :
    before text stop = before text start ++ between text start stop := by
  have hmin : min start text.utf8ByteSize ≤ min stop text.utf8ByteSize := by omega
  have htake : before text start = (before text stop).take (min start text.utf8ByteSize) := by
    rw [before, before, List.take_take, Nat.min_eq_left hmin]
  rw [htake, between, List.take_append_drop]

/-! ### Positions are looked up -/

/-- The starts of lines are ascending, as the look-up takes them to be. Each newline is a byte, so
no two lines begin at one offset. -/
theorem pairwise_starts_ofText (text : String) : (ofText text).starts.Pairwise (· < ·) := by
  rw [starts_ofText, List.pairwise_cons]
  refine ⟨?_, List.pairwise_idxsOf⟩
  intro start hstart
  exact List.ge_of_mem_idxsOf start hstart

/-- **Positions are those of the lines reached**: the line is counted by the starts that do not lie
behind the offset, and the column begins at the last of them. -/
theorem position_eq_reached (text : String) (offset : Nat) :
    (ofText text).position offset =
      let offset := min offset text.utf8ByteSize
      let reached := (ofText text).starts.takeWhile (· ≤ offset)
      { line := reached.length, column := offset - reached.getLastD 0 + 1, offset } := by
  have hsorted := pairwise_starts_ofText text
  have hanswers := Lookup.answers_find (min offset text.utf8ByteSize) hsorted
  rw [position, length_ofText]
  generalize Lookup.find (min offset text.utf8ByteSize) (ofText text).starts = answer at hanswers ⊢
  rw [starts_ofText] at hsorted hanswers ⊢
  have hline := hanswers.lineOf_eq hsorted (Nat.zero_le _)
  have htaken := hanswers.takeWhile_eq hsorted (Nat.zero_le _)
  have hlast : ((0 :: (bytes text).idxsOf newline 1).takeWhile
      (· ≤ min offset text.utf8ByteSize)).getLastD 0 =
        (0 :: (bytes text).idxsOf newline 1)[lineOf answer]?.getD 0 := by
    rw [htaken, List.getLastD_eq_getLast?, List.getLast?_take, if_neg (Nat.succ_ne_zero _),
      Nat.add_sub_cancel]
    have hlt := hanswers.lineOf_lt
    rw [List.getElem?_eq_getElem hlt]
    rfl
  simp only [← hline, hlast]

/-- **Every answer leads to the position**: whatever search is made for an offset among the starts
of lines, if it answers as it is asked to, the line it leads to is the one of the position. -/
theorem position_of_answers (text : String) (offset : Nat) {answer : Lookup}
    (h : answer.Answers (min offset text.utf8ByteSize) (ofText text).starts) :
    (ofText text).position offset =
      { line := lineOf answer + 1
        column := min offset text.utf8ByteSize - (ofText text).starts[lineOf answer]?.getD 0 + 1
        offset := min offset text.utf8ByteSize } := by
  have hsorted := pairwise_starts_ofText text
  have hanswers := Lookup.answers_find (min offset text.utf8ByteSize) hsorted
  have hsame : lineOf (Lookup.find (min offset text.utf8ByteSize) (ofText text).starts) =
      lineOf answer := by
    rw [starts_ofText] at hsorted hanswers h ⊢
    have hfound := hanswers.lineOf_eq hsorted (Nat.zero_le _)
    have hline := h.lineOf_eq hsorted (Nat.zero_le _)
    omega
  rw [position, length_ofText, hsame]

/-! ### Positions count -/

/-- The starts that an offset reaches are those the bytes before it give: the bytes behind it only
add starts that lie behind it too. -/
theorem takeWhile_starts_ofText (text : String) (offset : Nat) :
    (ofText text).starts.takeWhile (· ≤ min offset text.utf8ByteSize) =
      0 :: (before text offset).idxsOf newline 1 := by
  obtain ⟨behind, hbytes⟩ : ∃ behind, bytes text = before text offset ++ behind :=
    ⟨_, (List.take_append_drop (min offset text.utf8ByteSize) (bytes text)).symm⟩
  have hreached : ∀ start ∈ (before text offset).idxsOf newline 1,
      start ≤ min offset text.utf8ByteSize := by
    intro start hstart
    have hlt := List.lt_add_of_mem_idxsOf start hstart
    rw [length_before] at hlt
    omega
  -- the first start that comes from the bytes behind the offset lies behind it
  have hbehind : (behind.idxsOf newline (1 + (before text offset).length)).takeWhile
      (· ≤ min offset text.utf8ByteSize) = [] := by
    cases hstarts : behind.idxsOf newline (1 + (before text offset).length) with
    | nil => rfl
    | cons start rest =>
      have hge := List.ge_of_mem_idxsOf start (hstarts ▸ List.mem_cons_self)
      rw [length_before] at hge
      have hlt : ¬ start ≤ min offset text.utf8ByteSize := by omega
      exact List.takeWhile_cons_of_neg (by simpa using hlt)
  rw [starts_ofText, hbytes, List.idxsOf_append, List.takeWhile_cons_of_pos (by simp),
    List.takeWhile_append_of_pos (by simpa using hreached), hbehind, List.append_nil]

/-- Behind the last start there are the bytes since the last newline. The induction goes over the
bytes from the end, where a newline begins the count anew. -/
theorem length_eq_getLastD_add (bs : List UInt8) :
    bs.length = (0 :: bs.idxsOf newline 1).getLastD 0 +
      (bs.reverse.takeWhile (· != newline)).length := by
  induction bs using List.reverseRecOn with
  | nil => rfl
  | append_singleton bs b ih =>
    rw [List.length_append, List.length_singleton, List.idxsOf_append, List.reverse_append,
      List.reverse_singleton, List.singleton_append]
    by_cases hb : b = newline
    · have hstart : [b].idxsOf newline (1 + bs.length) = [1 + bs.length] := by simp [hb]
      rw [hstart, ← List.cons_append, List.getLastD_concat,
        List.takeWhile_cons_of_neg (by simp [hb]), List.length_nil]
      omega
    · have hnone : [b].idxsOf newline (1 + bs.length) = [] := by simp [hb]
      rw [hnone, List.append_nil, List.takeWhile_cons_of_pos (by simp [hb]), List.length_cons]
      omega

/-- **Positions count** the newlines before an offset, and the bytes since the last of them. Both
counts start from 1, and an offset past the end counts as the end. -/
theorem position_ofText (text : String) (offset : Nat) :
    (ofText text).position offset =
      { line := 1 + (before text offset).count newline
        column := 1 + ((before text offset).reverse.takeWhile (· != newline)).length
        offset := min offset text.utf8ByteSize } := by
  have hlast := length_eq_getLastD_add (before text offset)
  rw [length_before] at hlast
  simp only [position_eq_reached, takeWhile_starts_ofText, List.length_cons, List.length_idxsOf,
    Position.mk.injEq]
  exact ⟨by omega, by omega, trivial⟩

/-- From an offset to a later one, the line grows by each newline in between. -/
theorem line_position_of_le (text : String) {start stop : Nat} (h : start ≤ stop) :
    ((ofText text).position stop).line =
      ((ofText text).position start).line + (between text start stop).count newline := by
  simp only [position_ofText, before_eq_append_between text h, List.count_append, Nat.add_assoc]

/-- Without a newline in between, the column grows by each byte. -/
theorem column_position_of_le {text : String} {start stop : Nat} (h : start ≤ stop)
    (hline : newline ∉ between text start stop) :
    ((ofText text).position stop).column =
      ((ofText text).position start).column + (between text start stop).length := by
  have hall : ∀ b ∈ (between text start stop).reverse, (b != newline) = true := by
    intro b hb
    refine bne_iff_ne.2 ?_
    rintro rfl
    exact hline (List.mem_reverse.1 hb)
  simp only [position_ofText, before_eq_append_between text h, List.reverse_append,
    List.takeWhile_append_of_pos hall, List.length_append, List.length_reverse]
  omega

/-- **Two offsets are on one line** when no newline lies between them. The newline itself is on the
line it ends. -/
theorem line_position_eq_iff (text : String) {start stop : Nat} (h : start ≤ stop) :
    ((ofText text).position start).line = ((ofText text).position stop).line ↔
      newline ∉ between text start stop := by
  rw [line_position_of_le text h, ← List.count_eq_zero]
  omega

/-- **Positions are ordered as their offsets are**: first by lines and, on one line, by columns. -/
theorem position_le_position (text : String) {start stop : Nat} (h : start ≤ stop) :
    (ofText text).position start ≤ (ofText text).position stop := by
  rw [Position.le_iff]
  by_cases hline : newline ∈ between text start stop
  · -- the newline puts the later position on a later line
    left
    have hcount := List.count_pos_iff.2 hline
    rw [line_position_of_le text h]
    omega
  · -- the column decides, and where it is the same, the offset is too
    right
    have hcolumn := column_position_of_le h hline
    have hoffset :
        ((ofText text).position start).offset ≤ ((ofText text).position stop).offset := by
      simp only [position_ofText]
      omega
    refine ⟨(line_position_eq_iff text h).2 hline, ?_⟩
    omega

/-! ### Positions are places -/

/-- The starts that an offset reaches are those of the first lines, up to the last one that does not
begin behind it. -/
theorem exists_line {text : String} {offset : Nat} (hoffset : offset ≤ text.utf8ByteSize) :
    ∃ line, 1 ≤ line ∧ line ≤ (lines text).length ∧
      (ofText text).starts.takeWhile (· ≤ offset) = (ofText text).starts.take line ∧
      lineStart text line ≤ offset ∧ offset < lineStart text (line + 1) := by
  obtain ⟨line, hline⟩ : ∃ line,
      (ofText text).starts.findIdx (fun start => !decide (start ≤ offset)) = line := ⟨_, rfl⟩
  have hle : line ≤ (lines text).length := by
    rw [← lineCount_ofText, ← hline]
    exact List.findIdx_le_length
  have hpos : 1 ≤ line := by
    rw [← hline, starts_ofText, List.findIdx_cons]
    simp
  refine ⟨line, hpos, hle, ?_, ?_, ?_⟩
  · rw [List.takeWhile_eq_take_findIdx_not, hline]
  · obtain ⟨hlt, hget⟩ := List.getElem?_eq_some_iff.1 (getElem?_starts_ofText hpos hle)
    have hbefore :
        line - 1 < (ofText text).starts.findIdx fun start => !decide (start ≤ offset) := by
      omega
    simpa [hget] using List.not_of_lt_findIdx hbefore
  · rcases Nat.lt_or_eq_of_le hle with hlt | rfl
    · have hnext := getElem?_starts_ofText (Nat.le_add_left 1 line) hlt
      rw [Nat.add_sub_cancel, ← hline] at hnext
      have hbehind := List.findIdx_of_getElem?_eq_some hnext
      rw [hline] at hbehind
      simpa using hbehind
    · -- behind the last line there is only the end of the text
      rw [lineStart_behind_last]
      omega

/-- **A position is a place**, the one with its offset. An offset past the end has the position of
the end. -/
theorem exists_place (text : String) (offset : Nat) :
    ∃ line column,
      (ofText text).position offset = ⟨line, column, min offset text.utf8ByteSize⟩ ∧
      IsPlace text line column ∧
      placeOffset text line column = min offset text.utf8ByteSize := by
  obtain ⟨line, hpos, hle, hreached, hstart, hnext⟩ :=
    exists_line (Nat.min_le_right offset text.utf8ByteSize)
  have hlength : ((ofText text).starts.take line).length = line := by
    have hcount : (ofText text).starts.length = (lines text).length := lineCount_ofText text
    rw [List.length_take]
    omega
  have hlast : ((ofText text).starts.take line).getLastD 0 = lineStart text line := by
    rw [List.getLastD_eq_getLast?, List.getLast?_take, if_neg (by omega),
      getElem?_starts_ofText hpos hle]
    rfl
  refine ⟨line, min offset text.utf8ByteSize - lineStart text line + 1, ?_, ?_, ?_⟩
  · simp only [position_eq_reached, hreached, hlength, hlast]
  · rw [lineStart_succ hpos hle] at hnext
    exact ⟨hpos, hle, Nat.le_add_left 1 _, by omega⟩
  · rw [placeOffset]
    omega

/-! ### From places to offsets -/

/-- On a line of the text, the offset is the start of the line and the column put together, and cut
off at the end of the text. The two are added first, so the sum may overflow where what is left of
it would not. -/
theorem offsetFor_eq_min {text : String} {line : Nat} (hpos : 1 ≤ line)
    (hle : line ≤ (lines text).length) (column : Nat) :
    (ofText text).offsetFor line column =
      (offsetAdd (lineStart text line) (column - 1)).map (min · text.utf8ByteSize) := by
  obtain ⟨i, rfl⟩ : ∃ i, line = i + 1 := ⟨line - 1, by omega⟩
  have hstart := getElem?_starts_ofText hpos hle
  rw [Nat.add_sub_cancel] at hstart
  simp only [offsetFor, hstart, length_ofText]

/-- A sum that is a machine word is cut off at the end of the text. The column may then lie far
behind the end of its line. -/
theorem offsetFor_of_fits {text : String} {line column : Nat} (hpos : 1 ≤ line)
    (hle : line ≤ (lines text).length) (hfits : placeOffset text line column < wordSize) :
    (ofText text).offsetFor line column =
      .ok (min (placeOffset text line column) text.utf8ByteSize) := by
  rw [placeOffset] at hfits ⊢
  rw [offsetFor_eq_min hpos hle, offsetAdd_of_fits hfits]
  rfl

/-- **A larger sum overflows**, before it could be cut off. What the text holds has no part in that:
only the start of the line counts. -/
theorem offsetFor_of_overflows {text : String} {line column : Nat} (hpos : 1 ≤ line)
    (hle : line ≤ (lines text).length) (hoverflows : wordSize ≤ placeOffset text line column) :
    (ofText text).offsetFor line column = .error .sum := by
  rw [placeOffset] at hoverflows
  rw [offsetFor_eq_min hpos hle, offsetAdd_of_overflows hoverflows]
  rfl

/-- **A place is found at its offset**, in a text that offsets can measure: the sum is at most the
size of the text, so nothing is cut off and nothing overflows. -/
theorem offsetFor_of_isPlace {text : String} {line column : Nat}
    (hsize : text.utf8ByteSize < wordSize) (h : IsPlace text line column) :
    (ofText text).offsetFor line column = .ok (placeOffset text line column) := by
  have hle := h.offset_le_size
  rw [offsetFor_of_fits h.line_pos h.line_le (by omega), Nat.min_eq_left hle]

/-! ### Main results -/

/-- **Positions and ranges count bytes.** The offset is cut off at the end of the text; the line is
one more than the newlines before it, and the column one more than the bytes behind the last of
these. The ends of a range are in order, and on one line exactly when there is no newline between
them. -/
theorem position_and_range_count (text : String) :
    (∀ offset, (ofText text).position offset =
      { line := 1 + (before text offset).count newline
        column := 1 + ((before text offset).reverse.takeWhile (· != newline)).length
        offset := min offset text.utf8ByteSize }) ∧
    ∀ start stop, start ≤ stop →
      ((ofText text).range start stop).start ≤ ((ofText text).range start stop).stop ∧
      (((ofText text).range start stop).isSingleLine = true ↔
        newline ∉ between text start stop) := by
  refine ⟨position_ofText text, fun start stop h => ⟨position_le_position text h, ?_⟩⟩
  rw [Range.isSingleLine, beq_iff_eq]
  exact line_position_eq_iff text h

/-- An empty line, an offset inside a character and one past the end. Offsets inside a character
have positions as others do, since columns are bytes. -/
theorem range_over_empty_line :
    let index := ofText "a\n\né"
    index.position 4 = ⟨3, 2, 4⟩ ∧ index.position 100 = ⟨3, 3, 5⟩ ∧
      (index.range 2 100).start ≤ (index.range 2 100).stop ∧
      (index.range 2 100).isSingleLine = false ∧ (index.range 3 100).isSingleLine = true := by
  obtain ⟨hposition, hrange⟩ := position_and_range_count "a\n\né"
  obtain ⟨hordered, hsingle⟩ := hrange 2 100 (by decide)
  refine ⟨by rw [hposition]; decide, by rw [hposition]; decide, hordered, ?_, ?_⟩
  · rw [← Bool.not_eq_true, hsingle]
    decide
  · exact (hrange 3 100 (by decide)).2.2 (by decide)

/-- **Offsets and places convert back and forth.** The position of an offset leads back to the
offset, cut off at the end of the text; a line and a column come back from their offset exactly when
the text has the line, and the column lies in it or just behind its last byte. The bytes of a text
in memory are counted by machine words. -/
theorem offsets_and_places_convert (text : String) (hsize : text.utf8ByteSize < wordSize) :
    (∀ offset, (ofText text).offsetFor ((ofText text).position offset).line
      ((ofText text).position offset).column = .ok (min offset text.utf8ByteSize)) ∧
    ∀ line column,
      (∃ offset, (ofText text).offsetFor line column = .ok offset ∧
        ((ofText text).position offset).line = line ∧
        ((ofText text).position offset).column = column) ↔
      1 ≤ line ∧ line ≤ (ofText text).lineCount ∧ 1 ≤ column ∧
        column - 1 ≤ lineLength text line := by
  refine ⟨?_, ?_⟩
  · intro offset
    obtain ⟨line, column, hposition, hplace, hoffset⟩ := exists_place text offset
    rw [hposition, offsetFor_of_isPlace hsize hplace, hoffset]
  · intro line column
    rw [lineCount_ofText]
    refine ⟨?_, ?_⟩
    · -- the position is a place, so what comes back is one
      rintro ⟨offset, -, hline, hcolumn⟩
      obtain ⟨line', column', hposition, hplace, -⟩ := exists_place text offset
      rw [hposition] at hline hcolumn
      obtain rfl : line' = line := hline
      obtain rfl : column' = column := hcolumn
      exact ⟨hplace.line_pos, hplace.line_le, hplace.column_pos, hplace.column_le⟩
    · -- the place and the position of its offset are two places with one offset
      rintro ⟨hpos, hle, hcolumn, hlength⟩
      have h : IsPlace text line column := ⟨hpos, hle, hcolumn, hlength⟩
      obtain ⟨line', column', hposition, hplace, hoffset⟩ :=
        exists_place text (placeOffset text line column)
      rw [Nat.min_eq_left h.offset_le_size] at hoffset
      obtain ⟨rfl, rfl⟩ := hplace.unique h hoffset
      exact ⟨_, offsetFor_of_isPlace hsize h, by rw [hposition], by rw [hposition]⟩

/-- The place behind the newline of the first line is on the second one, and the end of the second
line lies behind a character of two bytes. -/
theorem places_on_two_lines :
    let index := ofText "a\né"
    "a\né".utf8ByteSize < wordSize ∧
      index.offsetFor (index.position 3).line (index.position 3).column = .ok 3 ∧
      (∃ offset, index.offsetFor 2 3 = .ok offset ∧ (index.position offset).line = 2 ∧
        (index.position offset).column = 3) ∧
      ¬ ∃ offset, index.offsetFor 1 3 = .ok offset ∧ (index.position offset).line = 1 ∧
        (index.position offset).column = 3 := by
  have hsize : "a\né".utf8ByteSize < wordSize := by decide
  obtain ⟨hback, hforth⟩ := offsets_and_places_convert "a\né" hsize
  refine ⟨hsize, hback 3, (hforth 2 3).2 (by decide), ?_⟩
  rw [hforth 1 3]
  decide

/-- **Columns past the end are clamped** exactly while the start of the line and the column add up
to a machine word: then a larger column never gives a smaller offset, and all offsets lie between
the start of the line and the end of the text. A larger sum overflows, so that there is no
offset. -/
theorem offsetFor_clamps_iff (text : String) {line column column' : Nat} (hpos : 1 ≤ line)
    (hle : line ≤ (ofText text).lineCount) (hcolumns : column ≤ column') :
    ((∃ offset offset', (ofText text).offsetFor line column = .ok offset ∧
        (ofText text).offsetFor line column' = .ok offset' ∧
        lineStart text line ≤ offset ∧ offset ≤ offset' ∧ offset' ≤ text.utf8ByteSize) ↔
      lineStart text line + (column' - 1) < wordSize) ∧
    (wordSize ≤ lineStart text line + (column' - 1) →
      (ofText text).offsetFor line column' = .error .sum) := by
  rw [lineCount_ofText] at hle
  have hoverflows : wordSize ≤ lineStart text line + (column' - 1) →
      (ofText text).offsetFor line column' = .error .sum := offsetFor_of_overflows hpos hle
  refine ⟨⟨?_, ?_⟩, hoverflows⟩
  · rintro ⟨offset, offset', -, hoffset', -⟩
    by_contra hlarge
    rw [hoverflows (Nat.not_lt.1 hlarge)] at hoffset'
    cases hoffset'
  · intro hfits
    have hfirst : IsPlace text line 1 := ⟨hpos, hle, Nat.le_refl 1, Nat.zero_le _⟩
    have hsize := hfirst.offset_le_size
    have hsmaller : placeOffset text line column < wordSize := by
      rw [placeOffset]
      omega
    refine ⟨_, _, offsetFor_of_fits hpos hle hsmaller, offsetFor_of_fits hpos hle hfits, ?_⟩
    simp only [placeOffset] at hsize ⊢
    omega

/-- The second line of this text begins at offset 3, where its first column is. Its largest column
overflows, and is not clamped to the end of the text at offset 3. -/
theorem offsetFor_largest_column :
    let index := ofText "ab\n"
    index.offsetFor 2 1 = .ok 3 ∧ index.offsetFor 2 (wordSize - 1) = .error .sum ∧
      ¬ ∃ offset offset', index.offsetFor 2 1 = .ok offset ∧
        index.offsetFor 2 (wordSize - 1) = .ok offset' ∧
        lineStart "ab\n" 2 ≤ offset ∧ offset ≤ offset' ∧ offset' ≤ "ab\n".utf8ByteSize := by
  have hline : 1 ≤ 2 ∧ 2 ≤ (ofText "ab\n").lineCount := by decide
  have hcolumns : 1 ≤ wordSize - 1 := by decide
  obtain ⟨hclamps, hoverflows⟩ := offsetFor_clamps_iff "ab\n" hline.1 hline.2 hcolumns
  refine ⟨by decide, hoverflows (by decide), ?_⟩
  rw [hclamps]
  decide

end LineIndex

end DeclLint
