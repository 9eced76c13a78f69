import DeclLint.Proofs.StableSort
import DeclLint.Proofs.Text.Lines
import Mathlib.Data.String.Basic
import Mathlib.Tactic.SplitIfs

/-!
# Texts in the order of their bytes

Texts are put in order character by character. That is the order of their bytes in UTF-8
(`Text.bytes_lt_bytes_iff`).

The bytes of a character are its code, written to the base 64. The first byte holds what the others
leave over and says how many they are (`Text.utf8EncodeChar_eq`). So of two characters, the one with
the smaller code has the smaller form, and they differ at a byte that both of them have
(`Text.utf8EncodeChar_append_lt`).
-/

namespace DeclLint

namespace Text

/-! ### Bytes in order -/

/-- What two lists begin with has no part in their order. -/
theorem append_lt_append_iff {xs ys zs : List UInt8} : xs ++ ys < xs ++ zs ↔ ys < zs := by
  induction xs with
  | nil => exact Iff.rfl
  | cons x xs ih => simp [ih]

theorem ofNat_cons_lt {m n : Nat} (hn : n < 256) (h : m < n) (xs ys : List UInt8) :
    UInt8.ofNat m :: xs < UInt8.ofNat n :: ys := by
  refine List.cons_lt_cons_iff.2 (.inl (UInt8.lt_iff_toNat_lt.2 ?_))
  rw [UInt8.toNat_ofNat', UInt8.toNat_ofNat']
  omega

/-! ### Characters -/

/-- The last `count` digits of a number to the base 64, each with the mark of a byte that goes
on. -/
def digits : (count : Nat) → Nat → List UInt8
  | 0, _ => []
  | count + 1, n => digits count (n / 64) ++ [UInt8.ofNat (n % 64 + 128)]

/-- The number of bytes behind the first, for a character of this code. -/
def tailLength (code : Nat) : Nat :=
  if code ≤ 0x7F then 0 else if code ≤ 0x7FF then 1 else if code ≤ 0xFFFF then 2 else 3

/-- What the first byte says about the number of bytes behind it. -/
def mark : Nat → Nat
  | 0 => 0
  | 1 => 192
  | 2 => 224
  | _ => 240

/-- The number in the first byte. -/
def leading (code : Nat) : Nat := code / 64 ^ tailLength code + mark (tailLength code)

/-- The largest code is that of U+10FFFF, so that four bytes are enough for a character. -/
theorem val_toNat_lt (c : Char) : c.val.toNat < 0x110000 := by
  rcases c.valid with hlow | ⟨-, hhigh⟩
  · exact Nat.lt_trans hlow (by decide)
  · exact hhigh

/-- **A character is written to the base 64**: a first byte that tells how many follow, and the last
digits of the code, one in each byte that follows. -/
theorem utf8EncodeChar_eq (c : Char) :
    String.utf8EncodeChar c =
      UInt8.ofNat (leading c.val.toNat) :: digits (tailLength c.val.toNat) c.val.toNat := by
  have hcode := val_toNat_lt c
  simp only [String.utf8EncodeChar, leading, tailLength]
  generalize c.val.toNat = code at *
  split_ifs <;>
    simp (disch := omega) [mark, digits, Nat.div_div_eq_div_mul, Nat.mod_eq_of_lt]

/-- Numbers that differ in their last digits only are in order as these digits are, whatever comes
behind. The induction is on the number of digits, the first of which decide unless they are the
same. -/
theorem digits_append_lt {count m n : Nat} (hlt : m < n) (hfront : m / 64 ^ count = n / 64 ^ count)
    (xs ys : List UInt8) : digits count m ++ xs < digits count n ++ ys := by
  induction count generalizing m n xs ys with
  | zero => omega
  | succ count ih =>
    rw [digits, digits, List.append_assoc, List.append_assoc]
    rcases Nat.lt_or_eq_of_le (Nat.div_le_div_right (c := 64) (Nat.le_of_lt hlt)) with hmore | heq
    · refine ih hmore ?_ _ _
      rw [Nat.div_div_eq_div_mul, Nat.div_div_eq_div_mul, ← Nat.pow_succ', hfront]
    · rw [heq, append_lt_append_iff]
      exact ofNat_cons_lt (by omega) (by omega) _ _

/-- The first byte is a byte indeed: the code leaves room for the mark that tells its length. -/
theorem leading_lt {code : Nat} (h : code < 0x110000) : leading code < 256 := by
  simp only [leading, tailLength]
  split_ifs <;> simp only [mark] <;> omega

/-- The first byte of a shorter form is smaller, for the marks of longer forms are larger than all
that can stand behind those of shorter ones. -/
theorem leading_lt_of_tailLength_ne {m n : Nat} (hlt : m < n) (hn : n < 0x110000)
    (hne : tailLength m ≠ tailLength n) : leading m < leading n := by
  simp only [leading, tailLength] at hne ⊢
  split_ifs at hne ⊢ <;> simp only [mark] <;> omega

/-- **The form of a smaller character is smaller**, whatever follows the two. -/
theorem utf8EncodeChar_append_lt {c d : Char} (h : c < d) (xs ys : List UInt8) :
    String.utf8EncodeChar c ++ xs < String.utf8EncodeChar d ++ ys := by
  have hlt : c.val.toNat < d.val.toNat := h
  have hbyte : leading d.val.toNat < 256 := leading_lt (val_toNat_lt d)
  rw [utf8EncodeChar_eq, utf8EncodeChar_eq, List.cons_append, List.cons_append]
  by_cases htail : tailLength c.val.toNat = tailLength d.val.toNat
  · have hle := Nat.div_le_div_right (c := 64 ^ tailLength d.val.toNat) (Nat.le_of_lt hlt)
    rcases Nat.lt_or_eq_of_le hle with hfront | hfront
    · refine ofNat_cons_lt hbyte ?_ _ _
      rw [leading, leading, htail]
      exact Nat.add_lt_add_right hfront _
    · -- the first bytes are equal, and the codes differ in the digits behind them
      rw [leading, leading, htail, hfront]
      exact List.cons_lt_cons_iff.2 (.inr ⟨rfl, digits_append_lt hlt hfront xs ys⟩)
  · exact ofNat_cons_lt hbyte (leading_lt_of_tailLength_ne hlt (val_toNat_lt d) htail) _ _

/-! ### Texts -/

/-- Lists of characters are in order as their forms are. The first characters that differ decide,
and so do their forms. -/
theorem flatMap_utf8EncodeChar_lt_iff {cs ds : List Char} :
    cs.flatMap String.utf8EncodeChar < ds.flatMap String.utf8EncodeChar ↔ cs < ds := by
  induction cs generalizing ds with
  | nil =>
    cases ds with
    | nil => simp
    | cons d ds => simp [utf8EncodeChar_eq]
  | cons c cs ih =>
    cases ds with
    | nil => simp
    | cons d ds =>
      rw [List.flatMap_cons, List.flatMap_cons, List.cons_lt_cons_iff]
      rcases lt_trichotomy c d with hlt | rfl | hgt
      · exact ⟨fun _ => .inl hlt, fun _ => utf8EncodeChar_append_lt hlt _ _⟩
      · rw [append_lt_append_iff, ih]
        simp
      · -- the other way round both sides are false
        have hforms := utf8EncodeChar_append_lt hgt (ds.flatMap String.utf8EncodeChar)
          (cs.flatMap String.utf8EncodeChar)
        refine ⟨fun h => absurd h (List.lt_asymm hforms), ?_⟩
        rintro (hlt | ⟨rfl, -⟩)
        · exact absurd hlt (Char.lt_asymm hgt)
        · exact absurd hgt (Char.lt_irrefl c)

/-- **Texts are ordered as their bytes are.** Here the order of texts is that of their characters,
and a comparison of bytes comes to the same. -/
theorem bytes_lt_bytes_iff {a b : String} : bytes a < bytes b ↔ a < b := by
  rw [bytes_eq_flatMap, bytes_eq_flatMap, flatMap_utf8EncodeChar_lt_iff, String.lt_iff]

theorem bytes_le_bytes_iff {a b : String} : bytes a ≤ bytes b ↔ a ≤ b := by
  rw [← List.not_lt, bytes_lt_bytes_iff, String.not_lt]

theorem isOrder_le : IsOrder fun a b : String => decide (a ≤ b) where
  trans a b c hab hbc :=
    decide_eq_true (String.le_trans (of_decide_eq_true hab) (of_decide_eq_true hbc))
  total a b := by simpa using String.le_total a b

/-- **Sorted texts** ascend in the order of their bytes, though they are sorted by their
characters. -/
theorem pairwise_bytes_mergeSort (texts : List String) :
    (texts.mergeSort (· ≤ ·)).Pairwise fun a b => bytes a ≤ bytes b :=
  (isStableSort_mergeSort isOrder_le texts).ordered.imp fun hab =>
    bytes_le_bytes_iff.2 (of_decide_eq_true hab)

end Text

end DeclLint
