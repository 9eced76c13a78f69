/-!
# Characters measured in bytes

Offsets into a text count the bytes of its UTF-8 form. This module measures a list of characters in
bytes, cuts it at a byte offset, and fixes the arithmetic of offsets:

* `byteCount` — the length of a list of characters in bytes;
* `splitAtByte` — the cut before a byte offset, defined exactly when the offset lies in the text and
  between two characters;
* `offsetAdd` — addition of offsets, which are machine words of 64 bits. A sum that is no machine
  word breaks the computation off (`Overflow`).
-/

namespace DeclLint

/-- Why a computation on offsets breaks off. -/
inductive Overflow where
  /-- the sum of two offsets is no machine word -/
  | sum
deriving DecidableEq, Repr

namespace Text

/-- The number of bytes the characters take in UTF-8. -/
def byteCount : List Char → Nat
  | [] => 0
  | c :: cs => c.utf8Size + byteCount cs

/-- Cuts a list of characters before the byte `offset`. There is no cut past the end, and none
inside a character. -/
def splitAtByte : Nat → List Char → Option (List Char × List Char)
  | 0, cs => some ([], cs)
  | _ + 1, [] => none
  | offset + 1, c :: cs =>
    if c.utf8Size ≤ offset + 1 then
      (splitAtByte (offset + 1 - c.utf8Size) cs).map fun (before, after) => (c :: before, after)
    else
      none

/-- The number of values a machine word takes. -/
def wordSize : Nat := Nat.pow 2 64

/-- The sum of two offsets as machine words, where it is one. -/
def offsetAdd (a b : Nat) : Except Overflow Nat :=
  if a + b < wordSize then .ok (a + b) else .error .sum

/-- Whether a number is a machine word. -/
def isWord (n : Nat) : Bool := n < wordSize

/-! ### Sums of offsets -/

/-- A sum of offsets that is a machine word is the sum of the numbers. -/
theorem offsetAdd_of_fits {a b : Nat} (h : a + b < wordSize) : offsetAdd a b = .ok (a + b) :=
  if_pos h

/-- **Any other sum overflows**: there is no offset that it could be. -/
theorem offsetAdd_of_overflows {a b : Nat} (h : wordSize ≤ a + b) :
    offsetAdd a b = .error .sum :=
  if_neg (Nat.not_lt.2 h)

/-! ### Cutting -/

@[simp] theorem byteCount_nil : byteCount [] = 0 := rfl

@[simp] theorem byteCount_cons (c : Char) (cs : List Char) :
    byteCount (c :: cs) = c.utf8Size + byteCount cs := rfl

@[simp] theorem byteCount_append (xs ys : List Char) :
    byteCount (xs ++ ys) = byteCount xs + byteCount ys := by
  induction xs with
  | nil => simp
  | cons c cs ih => simp [ih, Nat.add_assoc]

@[simp] theorem splitAtByte_zero (cs : List Char) : splitAtByte 0 cs = some ([], cs) := by
  cases cs <;> rfl

/-- A cut loses nothing, and the part before it has the length asked for. -/
theorem eq_append_of_splitAtByte {offset : Nat} {cs before after : List Char}
    (h : splitAtByte offset cs = some (before, after)) :
    cs = before ++ after ∧ byteCount before = offset := by
  induction cs generalizing offset before with
  | nil =>
    cases offset with
    | zero =>
      obtain ⟨rfl, rfl⟩ := by simpa using h
      simp
    | succ n => simp [splitAtByte] at h
  | cons c cs ih =>
    cases offset with
    | zero =>
      obtain ⟨rfl, rfl⟩ := by simpa using h
      simp
    | succ n =>
      rw [splitAtByte] at h
      split at h
      · obtain ⟨⟨inner, rest⟩, hcut, heq⟩ := Option.map_eq_some_iff.1 h
        obtain ⟨rfl, rfl⟩ := Prod.mk.inj heq
        obtain ⟨rfl, hcount⟩ := ih hcut
        refine ⟨rfl, ?_⟩
        rw [byteCount_cons, hcount]
        omega
      · cases h

/-- Every decomposition of a text is a cut of it. -/
theorem splitAtByte_append (before after : List Char) :
    splitAtByte (byteCount before) (before ++ after) = some (before, after) := by
  induction before with
  | nil => simp
  | cons c cs ih =>
    have hpos : 0 < c.utf8Size := c.utf8Size_pos
    obtain ⟨n, hn⟩ : ∃ n, c.utf8Size + byteCount cs = n + 1 :=
      ⟨c.utf8Size + byteCount cs - 1, by omega⟩
    have hle : c.utf8Size ≤ n + 1 := by omega
    have hsub : n + 1 - c.utf8Size = byteCount cs := by omega
    rw [byteCount_cons, List.cons_append, hn, splitAtByte, if_pos hle, hsub, ih]
    rfl

end Text

end DeclLint
