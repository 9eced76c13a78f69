import DeclLint.Settings.RuleSettings

/-!
# Names and their parts

Three functions take names apart or put them together, each in its own way: the check of a qualified
name looks between all dots, a function name is read by cutting at the last dot, and it is written
with a dot unless its package is empty. Here they are tied to one grammar, identifiers joined by
single dots (`Name.Qualified`).

* `checkQualifiedName` accepts what the grammar gives (`checkQualifiedName_eq_ok_iff`);
* reading an accepted text gives an identifier in a package that is empty or accepted, and writing
  it gives the text back; and so the other way round (`FunctionName.parse_display_of_accepted`).

A text whose only dot comes first is read with an empty package, and written without the dot. No
such text is accepted.
-/

namespace DeclLint

namespace Name

/-- A letter, `_` or `$`, and behind it letters, numbers, `_` and `$`. -/
def Identifier (text : String) : Prop :=
  ∃ first rest, text.toList = first :: rest ∧
    (Text.isAlphabetic first = true ∨ first = '_' ∨ first = '$') ∧
    ∀ c ∈ rest, Text.isAlphanumeric c = true ∨ c = '_' ∨ c = '$'

/-- One or more identifiers, joined by single dots. -/
def Qualified (text : String) : Prop :=
  ∃ parts : List String, parts ≠ [] ∧ (∀ part ∈ parts, Identifier part) ∧
    text = ".".intercalate parts

/-! ### Identifiers -/

/-- The check for an identifier is the definition of one. -/
theorem isIdentifier_iff {text : String} : isIdentifier text = true ↔ Identifier text := by
  rw [isIdentifier, Identifier]
  rcases text.toList with _ | ⟨first, rest⟩
  · simp [isIdentifierChars]
  · simp only [isIdentifierChars, startsIdentifier, continuesIdentifier, Bool.and_eq_true,
      Bool.or_eq_true, beq_iff_eq, List.all_eq_true, or_assoc]
    refine ⟨fun h => ⟨first, rest, rfl, h⟩, ?_⟩
    rintro ⟨_, _, heq, h⟩
    obtain ⟨rfl, rfl⟩ := List.cons.inj heq
    exact h

/-- No character of an identifier is a dot, as a dot is neither a letter nor a digit. -/
theorem dot_notMem_of_isIdentifierChars {cs : List Char} (h : isIdentifierChars cs = true) :
    '.' ∉ cs := by
  rcases cs with _ | ⟨first, rest⟩
  · cases h
  · obtain ⟨hfirst, hrest⟩ := Bool.and_eq_true_iff.1 h
    intro hdot
    rcases List.mem_cons.1 hdot with rfl | hdot
    · exact absurd hfirst (by decide)
    · exact absurd (List.all_eq_true.1 hrest '.' hdot) (by decide)

/-! ### Between all dots -/

/-- The segments of a name are what the library's splitting at dots gives. -/
theorem segments_eq_splitOn (cs : List Char) : segments cs = cs.splitOn '.' := by
  induction cs with
  | nil => rfl
  | cons c cs ih =>
    rw [segments, List.splitOn_cons_eq_if_modifyHead, ← ih]
    by_cases hdot : c = '.'
    · simp [hdot]
    · rcases hsegments : segments cs with _ | ⟨segment, rest⟩
      · -- there is always a segment
        rw [ih] at hsegments
        exact absurd hsegments (List.splitOn_ne_nil '.' cs)
      · simp [hdot]

/-- **The check for a qualified name** is the definition of one: every segment is an identifier. -/
theorem isQualifiedName_iff {text : String} : isQualifiedName text = true ↔ Qualified text := by
  rw [isQualifiedName, segments_eq_splitOn, List.all_eq_true]
  refine ⟨fun hall => ?_, ?_⟩
  · -- the parts are what stands between the dots
    refine ⟨(text.toList.splitOn '.').map String.ofList, ?_, ?_, ?_⟩
    · simp
    · intro part hpart
      obtain ⟨segment, hsegment, rfl⟩ := List.mem_map.1 hpart
      rw [← isIdentifier_iff, isIdentifier, String.toList_ofList]
      exact hall segment hsegment
    · rw [← String.toList_inj, String.toList_intercalate, List.map_map]
      simp [Function.comp_def, List.intercalate_splitOn]
  · -- no part has a dot, so the dots of the text are those between the parts
    rintro ⟨parts, hne, hparts, rfl⟩ segment hsegment
    have hchars : ∀ chars ∈ parts.map String.toList, isIdentifierChars chars = true := by
      intro chars hmem
      obtain ⟨part, hpart, rfl⟩ := List.mem_map.1 hmem
      exact isIdentifier_iff.2 (hparts part hpart)
    have hsplit : (".".intercalate parts).toList.splitOn '.' = parts.map String.toList := by
      rw [String.toList_intercalate]
      exact List.splitOn_intercalate '.'
        (fun chars hmem => dot_notMem_of_isIdentifierChars (hchars chars hmem)) (by simpa using hne)
    rw [hsplit] at hsegment
    exact hchars segment hsegment

/-! ### At the last dot -/

/-- Without a dot there is nothing to split at. -/
theorem splitAtLastDot_of_notMem {cs : List Char} (h : '.' ∉ cs) : splitAtLastDot cs = none := by
  induction cs with
  | nil => rfl
  | cons c cs ih =>
    obtain ⟨hc, hcs⟩ := not_or.1 (mt List.mem_cons.2 h)
    rw [splitAtLastDot, ih hcs]
    exact if_neg (Ne.symm hc)

/-- The last dot is the one with no dot behind it. What is before it may have more of them. -/
theorem splitAtLastDot_append {before after : List Char} (h : '.' ∉ after) :
    splitAtLastDot (before ++ '.' :: after) = some (before, after) := by
  induction before with
  | nil =>
    rw [List.nil_append, splitAtLastDot, splitAtLastDot_of_notMem h]
    rfl
  | cons c cs ih => rw [List.cons_append, splitAtLastDot, ih]

theorem exists_last_dot {cs : List Char} (h : '.' ∈ cs) :
    ∃ before after, cs = before ++ '.' :: after ∧ '.' ∉ after := by
  induction cs with
  | nil => cases h
  | cons c cs ih =>
    by_cases hmore : '.' ∈ cs
    · obtain ⟨before, after, rfl, hafter⟩ := ih hmore
      exact ⟨c :: before, after, rfl, hafter⟩
    · obtain rfl := (List.mem_cons.1 h).resolve_right hmore
      exact ⟨[], cs, rfl, hmore⟩

/-- A text has no dot, or a part before and a part behind its last dot. -/
theorem dot_notMem_or_exists (text : String) :
    '.' ∉ text.toList ∨
      ∃ before after : String, text = before ++ "." ++ after ∧ '.' ∉ after.toList := by
  by_cases hdot : '.' ∈ text.toList
  · obtain ⟨before, after, htext, hafter⟩ := exists_last_dot hdot
    refine .inr ⟨String.ofList before, String.ofList after, ?_, by simpa using hafter⟩
    rw [← String.toList_inj, htext]
    simp
  · exact .inl hdot

theorem toList_dotted (before after : String) :
    (before ++ "." ++ after).toList = before.toList ++ '.' :: after.toList := by simp

/-- A text without dots is a qualified name if it is an identifier. -/
theorem isQualifiedName_of_notMem {text : String} (h : '.' ∉ text.toList) :
    isQualifiedName text = isIdentifier text := by
  rw [isQualifiedName, segments_eq_splitOn, List.splitOn_eq_singleton h, List.all_cons,
    List.all_nil, Bool.and_true, isIdentifier]

/-- **The check goes on behind the last dot as it began.** A package is checked as a name of its
own, and the simple name as an identifier. -/
theorem isQualifiedName_dotted {before after : String} (h : '.' ∉ after.toList) :
    isQualifiedName (before ++ "." ++ after) = (isQualifiedName before && isIdentifier after) := by
  rw [← isQualifiedName_of_notMem h, isQualifiedName, isQualifiedName, isQualifiedName,
    toList_dotted, segments_eq_splitOn, segments_eq_splitOn, segments_eq_splitOn,
    List.splitOn_append_cons_self, List.all_append]

theorem dot_notMem_of_identifier {text : String} (h : Identifier text) : '.' ∉ text.toList :=
  dot_notMem_of_isIdentifierChars (isIdentifier_iff.2 h)

end Name

open Name

/-- An option passes as a name when its text is a qualified one. The rule and the key are there for
the complaint only. -/
theorem checkQualifiedName_eq_ok_iff {rule key text : String} :
    checkQualifiedName rule key text = .ok () ↔ isQualifiedName text = true := by
  rw [checkQualifiedName]
  split
  · next h => simp [h]
  · next h => simp [h]

namespace FunctionName

theorem parse_of_notMem {text : String} (h : '.' ∉ text.toList) : parse text = ⟨"", text⟩ := by
  rw [parse, packageOf, simpleName, splitAtLastDot_of_notMem h]

/-- **A name is read at its last dot**: the package is before, the simple name behind. -/
theorem parse_dotted {before after : String} (h : '.' ∉ after.toList) :
    parse (before ++ "." ++ after) = ⟨before, after⟩ := by
  rw [parse, packageOf, simpleName, toList_dotted, splitAtLastDot_append h]
  simp

/-- **Names read back.** A text is accepted as a qualified name exactly when it is identifiers
joined by single dots, and a dot is no part of an identifier. An accepted text is read as the name
of a function whose simple name is an identifier and whose package is empty or accepted, and is
written as it was. Every such name of a function is written as an accepted text, from which it is
read again. -/
theorem parse_display_of_accepted (rule key : String) :
    (∀ text, checkQualifiedName rule key text = .ok () ↔ Qualified text) ∧
    (Text.isAlphabetic '.' = false ∧ Text.isAlphanumeric '.' = false) ∧
    (∀ text, checkQualifiedName rule key text = .ok () →
      Identifier (parse text).name ∧
      ((parse text).package = "" ∨ checkQualifiedName rule key (parse text).package = .ok ()) ∧
      (parse text).display = text) ∧
    ∀ function : FunctionName, Identifier function.name →
      (function.package = "" ∨ checkQualifiedName rule key function.package = .ok ()) →
      checkQualifiedName rule key function.display = .ok () ∧
        parse function.display = function := by
  simp only [checkQualifiedName_eq_ok_iff]
  refine ⟨fun text => isQualifiedName_iff, by decide, ?_, ?_⟩
  · intro text haccepted
    rcases dot_notMem_or_exists text with hdot | ⟨before, after, rfl, hdot⟩
    · rw [isQualifiedName_of_notMem hdot] at haccepted
      rw [parse_of_notMem hdot]
      exact ⟨isIdentifier_iff.1 haccepted, .inl rfl, rfl⟩
    · rw [isQualifiedName_dotted hdot, Bool.and_eq_true] at haccepted
      obtain ⟨hbefore, hafter⟩ := haccepted
      rw [parse_dotted hdot]
      refine ⟨isIdentifier_iff.1 hafter, .inr hbefore, if_neg ?_⟩
      -- the empty text is not accepted, so the dot is written
      rintro rfl
      exact absurd hbefore (by decide)
  · rintro ⟨package, name⟩ hname hpackage
    have hdot : '.' ∉ name.toList := dot_notMem_of_identifier hname
    by_cases hroot : package = ""
    · subst hroot
      rw [display, if_pos rfl, isQualifiedName_of_notMem hdot, parse_of_notMem hdot]
      exact ⟨isIdentifier_iff.2 hname, rfl⟩
    · have haccepted := hpackage.resolve_left hroot
      rw [display, if_neg hroot, isQualifiedName_dotted hdot, parse_dotted hdot]
      exact ⟨Bool.and_eq_true_iff.2 ⟨haccepted, isIdentifier_iff.2 hname⟩, rfl⟩

example : (parse ".top").display = "top" := by decide

end FunctionName

end DeclLint
