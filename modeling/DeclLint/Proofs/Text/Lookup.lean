import DeclLint.Text.LineIndex
import Mathlib.Data.List.Basic

/-!
# Looking up in ascending lists

Which line an offset belongs to is looked up among the offsets at which lines begin. A look-up is
asked to say where a number stands, or where it belongs when it is missing (`Lookup.Answers`); by
which comparisons it gets there is its own affair.

* `Lookup.find` answers as it is asked to, in every ascending list (`Lookup.answers_find`);
* every other answer that does so leads to the same line: the numbers up to the sought one are those
  up to the line (`Lookup.Answers.takeWhile_eq`), and so their number says which line it is
  (`Lookup.Answers.lineOf_eq`).
-/

namespace DeclLint

namespace Lookup

/-- What a look-up is asked for: a number that is found stands at the index, and one that is not has
all smaller numbers before the index and all larger ones behind it. -/
def Answers (sought : Nat) (xs : List Nat) : Lookup → Prop
  | hit index => xs[index]? = some sought
  | miss index =>
    index ≤ xs.length ∧ (∀ x ∈ xs.take index, x < sought) ∧ ∀ x ∈ xs.drop index, sought < x

/-- An answer for the rest of a list is one for the whole list, when the sought number lies behind
the first one. -/
theorem Answers.behind {sought first : Nat} {rest : List Nat} (hfirst : first < sought)
    {answer : Lookup} (h : answer.Answers sought rest) :
    answer.behind.Answers sought (first :: rest) := by
  cases answer with
  | hit index => exact h
  | miss index =>
    obtain ⟨hindex, hbefore, hbehind⟩ := h
    refine ⟨Nat.succ_le_succ hindex, ?_, hbehind⟩
    intro x hx
    rw [List.take_succ_cons, List.mem_cons] at hx
    rcases hx with rfl | hx
    · exact hfirst
    · exact hbefore x hx

/-- **Looking up answers** what it is asked, in an ascending list. The induction follows the list:
once the sought number is passed, all that come are larger still. -/
theorem answers_find (sought : Nat) {xs : List Nat} (hxs : xs.Pairwise (· < ·)) :
    (find sought xs).Answers sought xs := by
  induction xs with
  | nil => exact ⟨Nat.le_refl 0, by simp, by simp⟩
  | cons first rest ih =>
    obtain ⟨hfirst, hrest⟩ := List.pairwise_cons.1 hxs
    rw [find]
    split
    · next heq =>
      rw [heq]
      rfl
    · next hne =>
      split
      · next hlt =>
        refine ⟨Nat.zero_le _, by simp, ?_⟩
        intro x hx
        rcases List.mem_cons.1 hx with rfl | hx
        · exact hlt
        · exact Nat.lt_trans hlt (hfirst x hx)
      · next hge => exact (ih hrest).behind (by omega)

/-- The numbers that do not exceed a bound come first, up to a cut that has them before and the
others behind it. -/
theorem takeWhile_le_eq_take {xs : List Nat} {bound cut : Nat}
    (hbefore : ∀ x ∈ xs.take cut, x ≤ bound) (hbehind : ∀ x ∈ xs.drop cut, bound < x) :
    xs.takeWhile (· ≤ bound) = xs.take cut := by
  have hnone : (xs.drop cut).takeWhile (· ≤ bound) = [] := by
    cases hdrop : xs.drop cut with
    | nil => rfl
    | cons next _ =>
      have hlt := hbehind next (hdrop ▸ List.mem_cons_self)
      exact List.takeWhile_cons_of_neg (by simpa using hlt)
  conv_lhs => rw [← List.take_append_drop cut xs]
  rw [List.takeWhile_append_of_pos (by simpa using hbefore), hnone, List.append_nil]

variable {sought first : Nat} {rest : List Nat} {answer : Lookup}

namespace Answers

/-- The line an answer leads to is one of those in the list. For a number that is not there it is
the line before its place, or the first line if there is none before. -/
theorem lineOf_lt (h : answer.Answers sought (first :: rest)) :
    LineIndex.lineOf answer < (first :: rest).length := by
  cases answer with
  | hit index =>
    obtain ⟨hlt, -⟩ := List.getElem?_eq_some_iff.1 h
    exact hlt
  | miss index =>
    obtain ⟨hindex, -, -⟩ := h
    have hpos : 0 < (first :: rest).length := Nat.succ_pos _
    change index - 1 < (first :: rest).length
    omega

/-- **An answer cuts the list at the sought number**: up to the line are the numbers that do not
exceed it, and behind the line those that do. -/
theorem takeWhile_eq (hsorted : (first :: rest).Pairwise (· < ·)) (hfirst : first ≤ sought)
    (h : answer.Answers sought (first :: rest)) :
    (first :: rest).takeWhile (· ≤ sought) =
      (first :: rest).take (LineIndex.lineOf answer + 1) := by
  generalize hxs : first :: rest = xs at hsorted h ⊢
  cases answer with
  | hit index =>
    -- what stands before the sought number is smaller, and what stands behind it larger
    obtain ⟨hlt, hget⟩ := List.getElem?_eq_some_iff.1 h
    have hdecomposed : xs = xs.take index ++ sought :: xs.drop (index + 1) := by
      rw [← hget, ← List.drop_eq_getElem_cons hlt, List.take_append_drop]
    rw [hdecomposed, List.pairwise_append] at hsorted
    obtain ⟨-, hdrop, hcross⟩ := hsorted
    have hline : LineIndex.lineOf (.hit index) + 1 = index + 1 := rfl
    rw [hline]
    refine takeWhile_le_eq_take ?_ (List.pairwise_cons.1 hdrop).1
    intro x hx
    rw [List.take_succ_eq_append_getElem hlt, List.mem_append, List.mem_singleton, hget] at hx
    rcases hx with hx | rfl
    · exact Nat.le_of_lt (hcross x hx sought List.mem_cons_self)
    · exact Nat.le_refl x
  | miss index =>
    obtain ⟨hindex, hbefore, hbehind⟩ := h
    -- the first number does not exceed the sought one, so it is not behind the place
    have hpos : index ≠ 0 := by
      rintro rfl
      have hlt := hbehind first (by rw [← hxs]; exact List.mem_cons_self)
      omega
    have hline : LineIndex.lineOf (.miss index) + 1 = index := by
      change index - 1 + 1 = index
      omega
    rw [hline]
    exact takeWhile_le_eq_take (fun x hx => Nat.le_of_lt (hbefore x hx)) hbehind

/-- **All answers lead to one line**, the number of which is counted by what does not exceed the
sought number. -/
theorem lineOf_eq (hsorted : (first :: rest).Pairwise (· < ·)) (hfirst : first ≤ sought)
    (h : answer.Answers sought (first :: rest)) :
    LineIndex.lineOf answer + 1 = ((first :: rest).takeWhile (· ≤ sought)).length := by
  have hlt := h.lineOf_lt
  rw [h.takeWhile_eq hsorted hfirst, List.length_take]
  omega

end Answers

end Lookup

end DeclLint
