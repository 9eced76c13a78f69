import DeclLint.Proofs.Edit.OneEdit
import DeclLint.Proofs.Text.Lines
import DeclLint.Proofs.Text.Occurrences

/-!
# What a search locates

Searches answer with ranges. Whatever is found, its range covers a part of the text, so a
replacement of it applies (`Range.Covers.apply_replacement`). Which part it is:

* `SourceText.isNext_of_findNth` — an occurrence of a needle that is not empty is the next one
  behind the end of the one before;
* `SourceText.exists_span`, `SourceText.isShortestSpan_of_span` — a span is found exactly where the
  text holds both delimiters in order. It begins at the first opening and ends with the next
  closing.
-/

namespace DeclLint

namespace SourceText

open Text

variable {text needle opening closing : String} {n : Nat} {range : Range}

/-- The offsets of a part of the text pass through the line index as they are: none of them lies
past the end, where it would be cut off. -/
theorem covers_range {before piece after : String} (h : text = before ++ piece ++ after) :
    ((ofText text).index.range before.utf8ByteSize
      (before.utf8ByteSize + piece.utf8ByteSize)).Covers text before piece after := by
  have hsize :
      text.utf8ByteSize = before.utf8ByteSize + piece.utf8ByteSize + after.utf8ByteSize := by
    rw [h, String.utf8ByteSize_append, String.utf8ByteSize_append]
  refine ⟨h, ?_, ?_⟩
  · change min before.utf8ByteSize (LineIndex.ofText text).length = _
    rw [LineIndex.length_ofText]
    omega
  · change min (before.utf8ByteSize + piece.utf8ByteSize) (LineIndex.ofText text).length = _
    rw [LineIndex.length_ofText, String.utf8ByteSize_append]
    omega

/-! ### Occurrences -/

/-- Where the search for an occurrence begins: at the start of the text for the first one, for any
other behind the occurrence before it. -/
def searchStart (source : SourceText) (needle : String) : Nat → Option Nat
  | 0 => some 0
  | n + 1 => (source.findNth needle n).map (·.stop.offset)

/-- What is found is the occurrence with the number asked for, counted from 0, and its range covers
the needle. -/
theorem exists_occurrence_of_findNth (h : (ofText text).findNth needle n = some range) :
    ∃ before after, range.Covers text before needle after ∧
      (occurrences needle.toList text.toList)[n]? = some before.utf8ByteSize := by
  obtain ⟨offset, hoffset, rfl⟩ := Option.map_eq_some_iff.1 h
  have hmem : offset ∈ occurrences needle.toList text.toList := List.mem_of_getElem? hoffset
  obtain ⟨front, back, htext, rfl⟩ := exists_append_of_mem_occurrencesFrom hmem
  have hparts : text = String.ofList front ++ needle ++ String.ofList back := by
    rw [← String.toList_inj, htext]
    simp
  refine ⟨String.ofList front, String.ofList back, ?_, ?_⟩
  · have hcovers := covers_range hparts
    rwa [utf8ByteSize_ofList, ← byteCount_toList needle,
      ← Nat.zero_add (byteCount front)] at hcovers
  · rwa [utf8ByteSize_ofList, ← Nat.zero_add (byteCount front)]

/-- The occurrences from number `n` on follow each other from where the search for number `n`
begins. -/
theorem successive_drop (hneedle : needle ≠ "") {start : Nat}
    (hstart : (ofText text).searchStart needle n = some start) :
    Successive needle text start ((occurrences needle.toList text.toList).drop n) := by
  have htext : text.toList = [] ++ text.toList := rfl
  have hall := successive_occurrencesFrom hneedle htext
  cases n with
  | zero =>
    obtain rfl := Option.some.inj hstart
    exact hall
  | succ n =>
    obtain ⟨previous, hprevious, rfl⟩ := Option.map_eq_some_iff.1 hstart
    obtain ⟨before, after, hcovers, hoffset⟩ := exists_occurrence_of_findNth hprevious
    rw [hcovers.stop, String.utf8ByteSize_append]
    exact hall.drop hoffset

/-- An occurrence that is found comes behind as many as its number says, so there is a place to
begin from. -/
theorem exists_searchStart (h : (ofText text).findNth needle n = some range) :
    ∃ start, (ofText text).searchStart needle n = some start := by
  cases n with
  | zero => exact ⟨0, rfl⟩
  | succ n =>
    obtain ⟨offset, hoffset, -⟩ := Option.map_eq_some_iff.1 h
    have hlt := (List.getElem?_eq_some_iff.1 hoffset).1
    rw [searchStart, findNth, List.getElem?_eq_getElem (Nat.lt_of_succ_lt hlt)]
    exact ⟨_, rfl⟩

/-- **An occurrence is the next one** from where its search begins: the needle stands there, and
nowhere in between. -/
theorem isNext_of_findNth (hneedle : needle ≠ "")
    (h : (ofText text).findNth needle n = some range) :
    ∃ start, (ofText text).searchStart needle n = some start ∧
      IsNext needle text start range.start.offset := by
  obtain ⟨start, hstart⟩ := exists_searchStart h
  obtain ⟨before, after, hcovers, hoffset⟩ := exists_occurrence_of_findNth h
  have hsuccessive := successive_drop hneedle hstart
  rw [List.drop_eq_getElem?_toList_append, hoffset] at hsuccessive
  refine ⟨start, hstart, ?_⟩
  rw [hcovers.start]
  exact hsuccessive.1

/-- **When there is no answer**, the needle stands nowhere from where the search begins. -/
theorem not_occursAt_of_findNth_eq_none (hneedle : needle ≠ "")
    (h : (ofText text).findNth needle n = none) {start : Nat}
    (hstart : (ofText text).searchStart needle n = some start) {offset : Nat}
    (hle : start ≤ offset) :
    ¬ OccursAt needle text offset := by
  have hsuccessive := successive_drop hneedle hstart
  have hend : (occurrences needle.toList text.toList).length ≤ n :=
    List.getElem?_eq_none_iff.1 (Option.map_eq_none_iff.1 h)
  rw [List.drop_eq_nil_of_le hend] at hsuccessive
  exact hsuccessive offset hle

/-! ### Spans -/

/-- The parts of a text with `opening` behind the first and `closing` behind the second. The first
part is the shortest there is, and the second is the shortest behind the first. -/
structure IsShortestSpan (text opening closing before between after : String) : Prop where
  /-- the three parts and the two delimiters -/
  eq : text = before ++ opening ++ between ++ closing ++ after
  /-- the first part cannot be shorter -/
  before_le : ∀ before' between' after',
    text = before' ++ opening ++ between' ++ closing ++ after' →
      before.utf8ByteSize ≤ before'.utf8ByteSize
  /-- the second part cannot be shorter -/
  between_le : ∀ between' after', text = before ++ opening ++ between' ++ closing ++ after' →
    between.utf8ByteSize ≤ between'.utf8ByteSize

/-- A span is cut by two searches, the second in what the first leaves. -/
theorem span_eq_some_iff : (ofText text).span opening closing = some range ↔
    ∃ front rest inner back, splitAtFirst opening.toList text.toList = some (front, rest) ∧
      splitAtFirst closing.toList rest = some (inner, back) ∧
      (ofText text).index.range (byteCount front)
        (byteCount front + byteCount (opening.toList ++ inner ++ closing.toList)) = range := by
  rw [span]
  simp only [Option.bind_eq_bind, Option.bind_eq_some_iff, Prod.exists, Option.pure_def,
    Option.some.injEq, byteCount_append, Nat.add_assoc]
  refine ⟨?_, ?_⟩
  · rintro ⟨front, rest, hopening, inner, back, hclosing, hrange⟩
    exact ⟨front, rest, inner, back, hopening, hclosing, hrange⟩
  · rintro ⟨front, rest, inner, back, hopening, hclosing, hrange⟩
    exact ⟨front, rest, hopening, inner, back, hclosing, hrange⟩

/-- **Taking the first opening loses no pair**: behind it there still is everything that stands
behind any other. -/
theorem exists_span {before between after : String}
    (h : text = before ++ opening ++ between ++ closing ++ after) :
    ∃ range, (ofText text).span opening closing = some range := by
  have htext : text.toList =
      before.toList ++ opening.toList ++ (between.toList ++ closing.toList ++ after.toList) := by
    rw [h]
    simp
  obtain ⟨front, rest, hopening⟩ := exists_splitAtFirst opening.toList before.toList
    (between.toList ++ closing.toList ++ after.toList)
  rw [← htext] at hopening
  have hfirst := isFirstCut_of_splitAtFirst hopening
  -- the first opening ends before the closing of the pair that is given
  have hle : byteCount (front ++ opening.toList) ≤
      byteCount (before.toList ++ opening.toList ++ between.toList) := by
    have hfront := hfirst.first _ _ htext
    simp only [byteCount_append]
    omega
  have hcuts : front ++ opening.toList ++ rest =
      before.toList ++ opening.toList ++ between.toList ++ (closing.toList ++ after.toList) := by
    rw [← hfirst.eq, htext]
    simp
  obtain ⟨skipped, -, rfl⟩ := exists_append_of_byteCount_le hcuts hle
  obtain ⟨inner, back, hclosing⟩ := exists_splitAtFirst closing.toList skipped after.toList
  rw [List.append_assoc] at hclosing
  exact ⟨_, span_eq_some_iff.2 ⟨front, _, inner, back, hopening, hclosing, rfl⟩⟩

/-- **A span is the shortest** from the first opening on. The closing is sought behind the opening,
so the two do not share characters. -/
theorem isShortestSpan_of_span (h : (ofText text).span opening closing = some range) :
    ∃ before between after, IsShortestSpan text opening closing before between after ∧
      range.Covers text before (opening ++ between ++ closing) after := by
  obtain ⟨front, rest, inner, back, hopening, hclosing, rfl⟩ := span_eq_some_iff.1 h
  have hfront := isFirstCut_of_splitAtFirst hopening
  have hinner := isFirstCut_of_splitAtFirst hclosing
  have htext : text = String.ofList front ++ (opening ++ String.ofList inner ++ closing) ++
      String.ofList back := by
    rw [← String.toList_inj, hfront.eq, hinner.eq]
    simp
  refine ⟨String.ofList front, String.ofList inner, String.ofList back, ⟨?_, ?_, ?_⟩, ?_⟩
  · rw [htext]
    simp only [String.append_assoc]
  · intro before' between' after' heq
    rw [utf8ByteSize_ofList, ← byteCount_toList]
    refine hfront.first before'.toList (between' ++ closing ++ after').toList ?_
    rw [heq]
    simp
  · intro between' after' heq
    rw [utf8ByteSize_ofList, ← byteCount_toList]
    refine hinner.first between'.toList after'.toList ?_
    have hrest := hfront.eq
    rw [heq] at hrest
    simpa using hrest.symm
  · have hcovers := covers_range htext
    rwa [utf8ByteSize_ofList, ← byteCount_toList, String.toList_append, String.toList_append,
      String.toList_ofList] at hcovers

/-! ### All searches -/

/-- The range answers a search, for an occurrence or for a span. -/
inductive Gives (source : SourceText) (range : Range) : Prop where
  /-- an occurrence of a needle -/
  | occurrence (needle : String) (n : Nat) (h : source.findNth needle n = some range)
  /-- a span between two delimiters -/
  | span (opening closing : String) (h : source.span opening closing = some range)

theorem Gives.covers (h : (ofText text).Gives range) :
    ∃ before piece after, range.Covers text before piece after := by
  cases h with
  | occurrence needle n h =>
    obtain ⟨before, after, hcovers, -⟩ := exists_occurrence_of_findNth h
    exact ⟨before, needle, after, hcovers⟩
  | span opening closing h =>
    obtain ⟨before, between, after, -, hcovers⟩ := isShortestSpan_of_span h
    exact ⟨before, opening ++ between ++ closing, after, hcovers⟩

/-- **Searches locate what they say.** The range of an occurrence covers the needle. A needle that
is not empty is found next from the end of the occurrence before on, with no occurrence in between,
and when there is no answer there is no occurrence left. A span is found exactly when the text holds
the opening and behind it the closing; its range runs from the first opening that is followed by a
closing to the end of the next closing. Whatever range was found, a replacement of it applies and
replaces what the range covers. -/
theorem searches_locate (text : String) :
    (∀ needle n range, (ofText text).findNth needle n = some range →
      slice? text range.start.offset range.stop.offset = some needle ∧
      (needle ≠ "" → ∃ start, (ofText text).searchStart needle n = some start ∧
        IsNext needle text start range.start.offset)) ∧
    (∀ needle n start, needle ≠ "" → (ofText text).findNth needle n = none →
      (ofText text).searchStart needle n = some start →
      ∀ offset, start ≤ offset → ¬ OccursAt needle text offset) ∧
    (∀ opening closing, (∃ range, (ofText text).span opening closing = some range) ↔
      ∃ before between after, text = before ++ opening ++ between ++ closing ++ after) ∧
    (∀ opening closing range, (ofText text).span opening closing = some range →
      ∃ before between after, IsShortestSpan text opening closing before between after ∧
        range.Covers text before (opening ++ between ++ closing) after) ∧
    ∀ range, (ofText text).Gives range → ∀ title replacement,
      ∃ before piece after, range.Covers text before piece after ∧
        (Fix.replacement title range replacement).apply text =
          .ok (before ++ replacement ++ after) := by
  refine ⟨?_, ?_, ?_, ?_, ?_⟩
  · intro needle n range h
    obtain ⟨before, after, hcovers, -⟩ := exists_occurrence_of_findNth h
    exact ⟨hcovers.slice?_eq, fun hneedle => isNext_of_findNth hneedle h⟩
  · intro needle n start hneedle h hstart offset hle
    exact not_occursAt_of_findNth_eq_none hneedle h hstart hle
  · intro opening closing
    refine ⟨?_, ?_⟩
    · rintro ⟨range, h⟩
      obtain ⟨before, between, after, hshortest, -⟩ := isShortestSpan_of_span h
      exact ⟨before, between, after, hshortest.eq⟩
    · rintro ⟨before, between, after, h⟩
      exact exists_span h
  · intro opening closing range h
    exact isShortestSpan_of_span h
  · intro range h title replacement
    obtain ⟨before, piece, after, hcovers⟩ := h.covers
    exact ⟨before, piece, after, hcovers, hcovers.apply_replacement title replacement⟩

/-- Behind a character of two bytes the needle stands at two offsets that overlap: the first is
found and can be replaced, the other one is passed over. A span may have the same opening and
closing. -/
theorem finds_behind_two_bytes :
    let text := "aaé aaa"
    let second : Range := ⟨⟨1, 6, 5⟩, ⟨1, 8, 7⟩⟩
    let span : Range := ⟨⟨1, 1, 0⟩, ⟨1, 3, 2⟩⟩
    (ofText text).findNth "aa" 1 = some second ∧ IsNext "aa" text 2 5 ∧ OccursAt "aa" text 6 ∧
      (∀ offset, 7 ≤ offset → ¬ OccursAt "aa" text offset) ∧
      (∃ before between after, IsShortestSpan text "a" "a" before between after ∧
        span.Covers text before ("a" ++ between ++ "a") after) ∧
      ∃ before piece after, second.Covers text before piece after ∧
        (Fix.replacement "" second "b").apply text = .ok (before ++ "b" ++ after) := by
  intro text second span
  obtain ⟨hoccurrences, hnone, -, hspans, hreplaced⟩ := searches_locate text
  have hsecond : (ofText text).findNth "aa" 1 = some second := by decide
  obtain ⟨-, hnext⟩ := hoccurrences "aa" 1 second hsecond
  obtain ⟨start, hstart, hnext⟩ := hnext (by decide)
  have hstart' : (ofText text).searchStart "aa" 1 = some 2 := by decide
  obtain rfl := Option.some.inj (hstart'.symm.trans hstart)
  refine ⟨hsecond, hnext, by decide, ?_, ?_, ?_⟩
  · exact hnone "aa" 2 7 (by decide) (by decide) (by decide)
  · exact hspans "a" "a" span (by decide)
  · exact hreplaced second (.occurrence "aa" 1 hsecond) "" "b"

end SourceText

end DeclLint
