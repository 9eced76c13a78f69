import DeclLint.Text.Search
import DeclLint.Proofs.Text.Slice

/-!
# One occurrence after the other

A search goes through the text from left to right and resumes behind each match. What it reports is
said here by the ways in which the text can be cut:

* `isFirstCut_of_splitAtFirst` — a split is at the first occurrence, and there is one wherever the
  needle occurs;
* `occurrencesFrom_of_splitAtFirst` — one step: the search reports the first occurrence and goes on
  behind it;
* `successive_occurrencesFrom` — a needle that is not empty is found occurrence after occurrence,
  each the next one behind the end of the one before, until there is none left.

The search keeps a cursor: the text is `done ++ rest`, and the occurrences from the cursor on are
those in `rest` (`occursAt_behind_iff`).
-/

namespace DeclLint

namespace Text

/-! ### The first occurrence -/

/-- `before` and `after` are what stands around the first occurrence of `needle`. -/
structure IsFirstCut (needle text before after : List Char) : Prop where
  /-- the needle stands between the two -/
  eq : text = before ++ needle ++ after
  /-- no occurrence stands further in front -/
  first : ∀ before' after', text = before' ++ needle ++ after' →
    byteCount before ≤ byteCount before'

/-- The head of a text lies before the first occurrence when the needle does not stand there. -/
theorem IsFirstCut.cons {needle text before after : List Char}
    (h : IsFirstCut needle text before after) {c : Char} (hhere : ¬ needle <+: c :: text) :
    IsFirstCut needle (c :: text) (c :: before) after where
  eq := by rw [h.eq]; rfl
  first before' after' heq := by
    cases before' with
    | nil => exact absurd ⟨after', heq.symm⟩ hhere
    | cons c' before' =>
      obtain ⟨rfl, htext⟩ := List.cons.inj heq
      have hle := h.first before' after' htext
      rw [byteCount_cons, byteCount_cons]
      omega

/-- **The split is at the first occurrence**: the text is what comes before, the needle and what
comes behind, and the needle stands nowhere earlier. -/
theorem isFirstCut_of_splitAtFirst {needle text before after : List Char}
    (h : splitAtFirst needle text = some (before, after)) :
    IsFirstCut needle text before after := by
  fun_induction splitAtFirst needle text generalizing before with
  | case1 hneedle =>
    obtain ⟨rfl, rfl⟩ := Prod.mk.inj (Option.some.inj h)
    exact ⟨by rw [hneedle]; rfl, fun _ _ _ => Nat.zero_le _⟩
  | case2 => cases h
  | case3 c text hhere =>
    obtain ⟨rfl, rfl⟩ := Prod.mk.inj (Option.some.inj h)
    have heq := List.prefix_iff_eq_append.1 (List.isPrefixOf_iff_prefix.1 hhere)
    exact ⟨heq.symm, fun _ _ _ => Nat.zero_le _⟩
  | case4 c text hhere ih =>
    obtain ⟨⟨front, back⟩, hsplit, heq⟩ := Option.map_eq_some_iff.1 h
    obtain ⟨rfl, rfl⟩ := Prod.mk.inj heq
    exact (ih hsplit).cons fun hprefix => hhere (List.isPrefixOf_iff_prefix.2 hprefix)

/-- Where there is an occurrence, there is a split. So a search that gives up has missed nothing. -/
theorem ne_append_of_splitAtFirst_eq_none {needle text : List Char}
    (h : splitAtFirst needle text = none) (before after : List Char) :
    text ≠ before ++ needle ++ after := by
  intro heq
  fun_induction splitAtFirst needle text generalizing before with
  | case1 => cases h
  | case2 hneedle =>
    obtain ⟨hfront, -⟩ := List.append_eq_nil_iff.1 heq.symm
    exact hneedle (List.append_eq_nil_iff.1 hfront).2
  | case3 => cases h
  | case4 c text hhere ih =>
    cases before with
    | nil => exact hhere (List.isPrefixOf_iff_prefix.2 ⟨after, heq.symm⟩)
    | cons c' before => exact ih (Option.map_eq_none_iff.1 h) before (List.cons.inj heq).2

theorem exists_splitAtFirst (needle before after : List Char) :
    ∃ before' after', splitAtFirst needle (before ++ needle ++ after) = some (before', after') := by
  rcases hsplit : splitAtFirst needle (before ++ needle ++ after) with _ | ⟨before', after'⟩
  · exact absurd rfl (ne_append_of_splitAtFirst_eq_none hsplit before after)
  · exact ⟨before', after', rfl⟩

/-! ### One occurrence after the other -/

/-- Characters to be skipped are passed over without a look at them, though their bytes are
counted. -/
theorem occurrencesFrom_skip (needle skipped text : List Char) (offset : Nat) :
    occurrencesFrom needle offset skipped.length (skipped ++ text) =
      occurrencesFrom needle (offset + byteCount skipped) 0 text := by
  induction skipped generalizing offset with
  | nil => rfl
  | cons c skipped ih =>
    rw [List.length_cons, List.cons_append, occurrencesFrom, ih, byteCount_cons, Nat.add_assoc]

/-- Without a split nothing is reported. -/
theorem occurrencesFrom_of_splitAtFirst_eq_none {needle text : List Char} (hneedle : needle ≠ [])
    (h : splitAtFirst needle text = none) (offset : Nat) :
    occurrencesFrom needle offset 0 text = [] := by
  fun_induction splitAtFirst needle text generalizing offset with
  | case1 => cases h
  | case2 => rw [occurrencesFrom, if_neg fun hnil => hneedle hnil.2]
  | case3 => cases h
  | case4 c text hhere ih =>
    rw [occurrencesFrom, if_neg hhere]
    exact ih (Option.map_eq_none_iff.1 h) _

/-- **One step of the search**: it reports the first occurrence and goes on behind it, so that
occurrences it reports do not overlap. -/
theorem occurrencesFrom_of_splitAtFirst {needle text before after : List Char}
    (hneedle : needle ≠ []) (h : splitAtFirst needle text = some (before, after)) (offset : Nat) :
    occurrencesFrom needle offset 0 text =
      (offset + byteCount before) ::
        occurrencesFrom needle (offset + byteCount (before ++ needle)) 0 after := by
  fun_induction splitAtFirst needle text generalizing offset before with
  | case1 hnil => exact absurd hnil hneedle
  | case2 => cases h
  | case3 c text hhere =>
    obtain ⟨rfl, rfl⟩ := Prod.mk.inj (Option.some.inj h)
    obtain ⟨rest, hrest⟩ := List.isPrefixOf_iff_prefix.1 hhere
    obtain ⟨first, skipped, rfl⟩ := List.exists_cons_of_ne_nil hneedle
    obtain ⟨rfl, rfl⟩ := List.cons.inj hrest
    have hdrop : (first :: skipped.append rest).drop (first :: skipped).length = rest := by
      simp
    -- the search passes over what is left of the needle
    have hskip := occurrencesFrom_skip (first :: skipped) skipped rest (offset + first.utf8Size)
    rw [Nat.add_assoc] at hskip
    rw [occurrencesFrom, if_pos hhere, hdrop, List.length_cons, Nat.add_sub_cancel]
    exact congrArg _ hskip
  | case4 c text hhere ih =>
    obtain ⟨⟨front, back⟩, hsplit, heq⟩ := Option.map_eq_some_iff.1 h
    obtain ⟨rfl, rfl⟩ := Prod.mk.inj heq
    rw [occurrencesFrom, if_neg hhere, ih hsplit]
    simp only [List.cons_append, byteCount_cons, Nat.add_assoc]

/-- An occurrence further behind has the head of the text before it. -/
theorem exists_append_cons {needle text : List Char} {c : Char} {offset found : Nat}
    (h : ∃ before after, text = before ++ needle ++ after ∧
      offset + c.utf8Size + byteCount before = found) :
    ∃ before after, c :: text = before ++ needle ++ after ∧ offset + byteCount before = found := by
  obtain ⟨before, after, rfl, rfl⟩ := h
  refine ⟨c :: before, after, rfl, ?_⟩
  rw [byteCount_cons, Nat.add_assoc]

/-- Whatever the needle, it stands at every offset that is reported, be the needle empty or not. -/
theorem exists_append_of_mem_occurrencesFrom {needle text : List Char} {offset skip found : Nat}
    (h : found ∈ occurrencesFrom needle offset skip text) :
    ∃ before after, text = before ++ needle ++ after ∧ offset + byteCount before = found := by
  fun_induction occurrencesFrom needle offset skip text with
  | case1 offset skip hnil =>
    obtain ⟨-, rfl⟩ := hnil
    exact ⟨[], [], rfl, (List.mem_singleton.1 h).symm⟩
  | case2 => cases h
  | case3 offset skip c text ih => exact exists_append_cons (ih h)
  | case4 offset c text hhere ih =>
    rcases List.mem_cons.1 h with rfl | h
    · obtain ⟨after, hafter⟩ := List.isPrefixOf_iff_prefix.1 hhere
      exact ⟨[], after, hafter.symm, rfl⟩
    · exact exists_append_cons (ih h)
  | case5 offset c text hhere ih => exact exists_append_cons (ih h)

/-! ### Occurrences in a text -/

/-- The needle stands in the text at an offset. -/
def OccursAt (needle text : String) (offset : Nat) : Prop :=
  slice? text offset (offset + needle.utf8ByteSize) = some needle

instance (needle text : String) (offset : Nat) : Decidable (OccursAt needle text offset) :=
  inferInstanceAs (Decidable (_ = _))

/-- The first occurrence from `start` on is at `offset`. -/
structure IsNext (needle text : String) (start offset : Nat) : Prop where
  /-- the search begins no later -/
  le : start ≤ offset
  /-- the needle stands there -/
  occurs : OccursAt needle text offset
  /-- no occurrence starts in between -/
  next : ∀ other, start ≤ other → other < offset → ¬ OccursAt needle text other

section Search

variable {needle text : String} {done rest : List Char} {start offset : Nat} {offsets : List Nat}

/-- A needle occurs at an offset when the text is cut there, with the needle next. -/
theorem occursAt_iff : OccursAt needle text offset ↔
    ∃ before after, text = before ++ needle ++ after ∧ before.utf8ByteSize = offset := by
  rw [OccursAt, slice?_eq_some_iff]
  refine ⟨?_, ?_⟩
  · rintro ⟨before, after, htext, hstart, -⟩
    exact ⟨before, after, htext, hstart⟩
  · rintro ⟨before, after, htext, rfl⟩
    exact ⟨before, after, htext, rfl, String.utf8ByteSize_append⟩

/-- An occurrence behind the cursor is an occurrence in the rest of the text. -/
theorem occursAt_behind_iff (htext : text.toList = done ++ rest) (hle : byteCount done ≤ offset) :
    OccursAt needle text offset ↔
      ∃ before after, rest = before ++ needle.toList ++ after ∧
        byteCount (done ++ before) = offset := by
  rw [occursAt_iff]
  refine ⟨?_, ?_⟩
  · rintro ⟨before, after, rfl, rfl⟩
    have hcut : done ++ rest = before.toList ++ (needle.toList ++ after.toList) := by
      rw [← htext, String.toList_append, String.toList_append, List.append_assoc]
    rw [← byteCount_toList] at hle
    obtain ⟨between, hbefore, rfl⟩ := exists_append_of_byteCount_le hcut hle
    refine ⟨between, after.toList, (List.append_assoc _ _ _).symm, ?_⟩
    rw [← hbefore, byteCount_toList]
  · rintro ⟨before, after, rfl, rfl⟩
    refine ⟨String.ofList (done ++ before), String.ofList after, ?_, utf8ByteSize_ofList _⟩
    rw [← String.toList_inj, htext]
    simp

/-- The offsets of all occurrences from `start` on, each the next one behind the end of the one
before. -/
def Successive (needle text : String) : (start : Nat) → List Nat → Prop
  | start, [] => ∀ offset, start ≤ offset → ¬ OccursAt needle text offset
  | start, offset :: rest =>
    IsNext needle text start offset ∧ Successive needle text (offset + needle.utf8ByteSize) rest

/-- The first occurrence in the rest of a text is the next one from the cursor on. -/
theorem IsFirstCut.isNext {before after : List Char} (htext : text.toList = done ++ rest)
    (h : IsFirstCut needle.toList rest before after) :
    IsNext needle text (byteCount done) (byteCount done + byteCount before) where
  le := Nat.le_add_right _ _
  occurs := by
    rw [occursAt_behind_iff htext (Nat.le_add_right _ _)]
    exact ⟨before, after, h.eq, byteCount_append done before⟩
  next other hle hlt hoccurs := by
    obtain ⟨before', after', hrest, rfl⟩ := (occursAt_behind_iff htext hle).1 hoccurs
    have hfirst := h.first before' after' hrest
    rw [byteCount_append] at hlt
    omega

/-- **The search reports one occurrence after the other.** The induction is on what is left of the
text behind the cursor. -/
theorem successive_occurrencesFrom (hneedle : needle ≠ "") (htext : text.toList = done ++ rest) :
    Successive needle text (byteCount done)
      (occurrencesFrom needle.toList (byteCount done) 0 rest) := by
  have hne : needle.toList ≠ [] := fun hnil => hneedle (String.toList_eq_nil_iff.1 hnil)
  induction hlength : rest.length using Nat.strongRecOn generalizing done rest with
  | ind length ih =>
    rcases hsplit : splitAtFirst needle.toList rest with _ | ⟨before, after⟩
    · rw [occurrencesFrom_of_splitAtFirst_eq_none hne hsplit]
      intro offset hle hoccurs
      obtain ⟨before, after, hrest, -⟩ := (occursAt_behind_iff htext hle).1 hoccurs
      exact ne_append_of_splitAtFirst_eq_none hsplit before after hrest
    · have hcut := isFirstCut_of_splitAtFirst hsplit
      have hrest : text.toList = (done ++ (before ++ needle.toList)) ++ after := by
        rw [htext, hcut.eq, List.append_assoc done]
      have hshorter : after.length < length := by
        have hpos := List.length_pos_iff.2 hne
        rw [← hlength, hcut.eq, List.length_append, List.length_append]
        omega
      have hsuccessive := ih after.length hshorter hrest rfl
      rw [byteCount_append] at hsuccessive
      rw [occurrencesFrom_of_splitAtFirst hne hsplit]
      refine ⟨hcut.isNext htext, ?_⟩
      rwa [Nat.add_assoc, ← byteCount_toList, ← byteCount_append]

/-- Behind any of the occurrences, the others follow, each the next one from the end of the one
before. -/
theorem Successive.drop {n : Nat} (h : Successive needle text start offsets)
    (hn : offsets[n]? = some offset) :
    Successive needle text (offset + needle.utf8ByteSize) (offsets.drop (n + 1)) := by
  induction n generalizing start offsets with
  | zero =>
    cases offsets with
    | nil => cases hn
    | cons first offsets =>
      obtain rfl := Option.some.inj hn
      exact h.2
  | succ n ih =>
    cases offsets with
    | nil => cases hn
    | cons first offsets => exact ih h.2 hn

end Search
end Text

end DeclLint
