import DeclLint.Text.LineIndex

/-!
# Finding snippets

A `SourceText` pairs a text with its line index and finds snippets in it.

* `Text.occurrences` — the offsets of a needle, from left to right; the search resumes after a
  match, so occurrences never overlap, and the empty needle occurs at every character boundary;
* `Text.splitAtFirst` — what stands before and after the first occurrence of a needle;
* `SourceText.find`, `SourceText.findNth`, `SourceText.span` — the same as ranges.
-/

namespace DeclLint

namespace Text

/-- The offsets of `needle`, when the first character stands at `offset` and the next `skip`
characters belong to the previous match. -/
def occurrencesFrom (needle : List Char) : (offset skip : Nat) → List Char → List Nat
  | offset, skip, [] => if skip = 0 ∧ needle = [] then [offset] else []
  | offset, skip + 1, c :: cs => occurrencesFrom needle (offset + c.utf8Size) skip cs
  | offset, 0, c :: cs =>
    if needle.isPrefixOf (c :: cs) then
      offset :: occurrencesFrom needle (offset + c.utf8Size) (needle.length - 1) cs
    else
      occurrencesFrom needle (offset + c.utf8Size) 0 cs

/-- The byte offsets at which `needle` occurs. -/
def occurrences (needle text : List Char) : List Nat := occurrencesFrom needle 0 0 text

/-- What stands before and after the first occurrence of `needle`. -/
def splitAtFirst (needle : List Char) : List Char → Option (List Char × List Char)
  | [] => if needle = [] then some ([], []) else none
  | c :: cs =>
    if needle.isPrefixOf (c :: cs) then
      some ([], (c :: cs).drop needle.length)
    else
      (splitAtFirst needle cs).map fun (before, after) => (c :: before, after)

end Text

/-- A text with its line index. -/
structure SourceText where
  /-- the text itself -/
  content : String
  /-- where its lines begin -/
  index : LineIndex

namespace SourceText

/-- Indexes a text. -/
def ofText (content : String) : SourceText := ⟨content, LineIndex.ofText content⟩

/-- The range of the occurrence number `n` of `needle`, counted from 0. -/
def findNth (source : SourceText) (needle : String) (n : Nat) : Option Range :=
  (Text.occurrences needle.toList source.content.toList)[n]?.map fun start =>
    source.index.range start (start + Text.byteCount needle.toList)

/-- The range of the first occurrence of `needle`. -/
def find (source : SourceText) (needle : String) : Option Range := source.findNth needle 0

/-- The range from the first occurrence of `opening` to the end of the next `closing` after it. -/
def span (source : SourceText) (opening closing : String) : Option Range := do
  let (before, rest) ← Text.splitAtFirst opening.toList source.content.toList
  let (between, _) ← Text.splitAtFirst closing.toList rest
  let start := Text.byteCount before
  let stop := start + Text.byteCount opening.toList + Text.byteCount between +
    Text.byteCount closing.toList
  return source.index.range start stop

end SourceText

end DeclLint
