import DeclLint.Rules.RequiredTag
import Mathlib.Data.List.Nodup
import Mathlib.Data.List.Perm.Subperm
import Mathlib.Order.Nat

/-!
# A free name for the tag

The parameter that a fix adds is named as configured, or with a number behind the name if that is
taken: 1, 2, 3 and so on, until a name is free. Nothing in this search bounds it
(`RequiredTag.Searches`). It ends because the names it goes through are all different
(`RequiredTag.numbered_injective`): the plain name and as many numbered ones as there are parameters
are more than the parameters can take (`RequiredTag.exists_free`). So `RequiredTag.firstFree`, which
looks at so many numbers only, finds what the search without a bound finds
(`RequiredTag.firstFree_of_searches`).
-/

namespace DeclLint

namespace RequiredTag

/-- The search without a bound. From `number` on it looks at the numbered names until one is free,
which is the result after `tried` of them. -/
inductive Searches (taken : List String) (base : String) :
    (number tried : Nat) → String → Prop where
  /-- the name is free -/
  | free {number : Nat} (h : base ++ toString number ∉ taken) :
      Searches taken base number 1 (base ++ toString number)
  /-- the name is taken, and the search goes on with the next number -/
  | next {number tried : Nat} {result : String} (h : base ++ toString number ∈ taken)
      (rest : Searches taken base (number + 1) tried result) :
      Searches taken base number (tried + 1) result

variable {taken : List String} {base result : String} {number tried : Nat}

/-- A bound that the search does not reach does not change it. -/
theorem firstFree_of_searches (h : Searches taken base number tried result) {more : Nat}
    (hle : tried ≤ more + 1) : firstFree taken base more number = result := by
  induction h generalizing more with
  | free hfree =>
    cases more with
    | zero => rfl
    | succ more => rw [firstFree, if_neg (by simpa using hfree)]
  | next htaken rest ih =>
    cases more with
    | zero =>
      -- one candidate is not enough, and the rest takes at least another
      cases rest <;> omega
    | succ more =>
      rw [firstFree, if_pos (by simpa using htaken)]
      exact ih (by omega)

/-- The search goes through the names that are taken up to the first that is free. The induction is
on how many are left until then. -/
theorem searches_of_least {more : Nat} (hfree : base ++ toString (more + number) ∉ taken)
    (htaken : ∀ other, number ≤ other → other < more + number → base ++ toString other ∈ taken) :
    Searches taken base number (more + 1) (base ++ toString (more + number)) := by
  induction more generalizing number with
  | zero =>
    rw [Nat.zero_add number] at hfree ⊢
    exact .free hfree
  | succ more ih =>
    have hnumber : more + 1 + number = more + (number + 1) := by omega
    rw [hnumber] at hfree htaken ⊢
    refine .next (htaken number (Nat.le_refl _) (by omega)) (ih hfree fun other hle hlt => ?_)
    exact htaken other (by omega) hlt

/-! ### The names are different -/

/-- A number is read off its digits. -/
theorem eq_of_toString_eq {a b : Nat} (h : toString a = toString b) : a = b := by
  rw [Nat.toString_eq_ofList_toDigits, Nat.toString_eq_ofList_toDigits, String.ofList_inj] at h
  calc a = Nat.ofDigitChars 10 (Nat.toDigits 10 a) 0 := Nat.ofDigitChars_ten_toDigits.symm
    _ = Nat.ofDigitChars 10 (Nat.toDigits 10 b) 0 := by rw [h]
    _ = b := Nat.ofDigitChars_ten_toDigits

/-- The names in the order in which they are tried: the plain one, then the numbered ones. -/
def numbered (base : String) : Nat → String
  | 0 => base
  | number + 1 => base ++ toString (number + 1)

/-- Different numbers make different names, since a number is read off the end of the name once the
base is known. -/
theorem numbered_injective (base : String) : Function.Injective (numbered base) := by
  -- no number is written with no digit at all
  have hplain (number : Nat) : base ≠ base ++ toString (number + 1) := by
    intro heq
    have hlength := congrArg String.length heq
    have hpos : 0 < (toString (number + 1)).length := Nat.length_repr_pos
    rw [String.length_append] at hlength
    omega
  intro a b heq
  cases a with
  | zero =>
    cases b with
    | zero => rfl
    | succ b => exact absurd heq (hplain b)
  | succ a =>
    cases b with
    | zero => exact absurd heq.symm (hplain a)
    | succ b => exact eq_of_toString_eq ((String.append_right_inj base).1 heq)

/-- **One of the names is free**: there are more of them than names that are taken. The base itself
is taken, so as many numbers as there are names are enough. -/
theorem exists_free (hbase : base ∈ taken) :
    ∃ number, 1 ≤ number ∧ number ≤ taken.length ∧ base ++ toString number ∉ taken := by
  by_contra hnone
  have hall : (List.range (taken.length + 1)).map (numbered base) ⊆ taken := by
    intro name hname
    obtain ⟨number, hnumber, rfl⟩ := List.mem_map.1 hname
    have hlt := List.mem_range.1 hnumber
    cases number with
    | zero => exact hbase
    | succ number =>
      by_contra hfree
      exact hnone ⟨number + 1, by omega, by omega, hfree⟩
  have hnodup : ((List.range (taken.length + 1)).map (numbered base)).Nodup :=
    List.nodup_range.map (numbered_injective base)
  have hlength := (hnodup.subperm hall).length_le
  rw [List.length_map, List.length_range] at hlength
  omega

/-- The first of the names that is free. -/
theorem exists_least_free (hbase : base ∈ taken) :
    ∃ number, 1 ≤ number ∧ number ≤ taken.length ∧ base ++ toString number ∉ taken ∧
      ∀ other, 1 ≤ other → other < number → base ++ toString other ∈ taken := by
  obtain ⟨number, hpos, hle, hfree⟩ := exists_free hbase
  have hexists : ∃ number, 1 ≤ number ∧ base ++ toString number ∉ taken := ⟨number, hpos, hfree⟩
  obtain ⟨hleast, hleastFree⟩ := Nat.find_spec hexists
  refine ⟨Nat.find hexists, hleast, ?_, hleastFree, fun other hother hlt => ?_⟩
  · exact (Nat.find_min' hexists ⟨hpos, hfree⟩).trans hle
  · by_contra hotherFree
    exact Nat.find_min hexists hlt ⟨hother, hotherFree⟩

/-! ### The name of the parameter -/

variable (rule : RequiredTag) {parameters : List Parameter}

theorem freshParameterName_of_free (h : rule.parameterName ∉ parameters.map (·.name)) :
    rule.freshParameterName parameters = rule.parameterName := by
  rw [freshParameterName, if_neg (by simpa using h)]

/-- **The search ends** with the least number that makes the name a free one, after as many
candidates as the number says. -/
theorem freshParameterName_of_taken (h : rule.parameterName ∈ parameters.map (·.name)) :
    ∃ number, 1 ≤ number ∧ number ≤ parameters.length ∧
      rule.freshParameterName parameters = rule.parameterName ++ toString number ∧
      rule.parameterName ++ toString number ∉ parameters.map (·.name) ∧
      (∀ other, 1 ≤ other → other < number →
        rule.parameterName ++ toString other ∈ parameters.map (·.name)) ∧
      Searches (parameters.map (·.name)) rule.parameterName 1 number
        (rule.freshParameterName parameters) := by
  obtain ⟨number, hpos, hle, hfree, htaken⟩ := exists_least_free h
  obtain ⟨more, rfl⟩ := Nat.exists_eq_add_of_le' hpos
  have hsearches := searches_of_least hfree htaken
  have hfound : rule.freshParameterName parameters = rule.parameterName ++ toString (more + 1) := by
    rw [freshParameterName, if_pos (by simpa using h)]
    exact firstFree_of_searches hsearches (by omega)
  rw [List.length_map] at hle
  refine ⟨more + 1, hpos, hle, hfound, hfree, htaken, ?_⟩
  rw [hfound]
  exact hsearches

/-- **A free name is found.** It is the configured name, if no parameter has it. Otherwise the
search for a number ends after at most as many candidates as there are parameters, and the name is
the configured one with the least number from 1 on that no parameter's name has. So no parameter has
the name that is found. -/
theorem freshParameterName_is_least_free (parameters : List Parameter) :
    ((∀ parameter ∈ parameters, parameter.name ≠ rule.parameterName) →
      rule.freshParameterName parameters = rule.parameterName) ∧
    ((∃ parameter ∈ parameters, parameter.name = rule.parameterName) →
      ∃ number, 1 ≤ number ∧ number ≤ parameters.length ∧
        Searches (parameters.map (·.name)) rule.parameterName 1 number
          (rule.freshParameterName parameters) ∧
        rule.freshParameterName parameters = rule.parameterName ++ toString number ∧
        (∀ parameter ∈ parameters, parameter.name ≠ rule.parameterName ++ toString number) ∧
        ∀ other, 1 ≤ other → other < number →
          ∃ parameter ∈ parameters, parameter.name = rule.parameterName ++ toString other) ∧
    ∀ parameter ∈ parameters, parameter.name ≠ rule.freshParameterName parameters := by
  have hnames (name : String) : name ∈ parameters.map (·.name) ↔
      ∃ parameter ∈ parameters, parameter.name = name := List.mem_map
  have hfree (name : String) : name ∉ parameters.map (·.name) ↔
      ∀ parameter ∈ parameters, parameter.name ≠ name := by
    rw [hnames]
    simp only [not_exists, not_and, ne_eq]
  refine ⟨?_, ?_, ?_⟩
  · intro h
    exact rule.freshParameterName_of_free ((hfree _).2 h)
  · intro h
    obtain ⟨number, hpos, hle, hfound, hnumber, htaken, hsearches⟩ :=
      rule.freshParameterName_of_taken ((hnames _).2 h)
    refine ⟨number, hpos, hle, hsearches, hfound, (hfree _).1 hnumber, ?_⟩
    intro other hother hlt
    exact (hnames _).1 (htaken other hother hlt)
  · rw [← hfree]
    by_cases h : rule.parameterName ∈ parameters.map (·.name)
    · obtain ⟨number, -, -, hfound, hnumber, -⟩ := rule.freshParameterName_of_taken h
      rwa [hfound]
    · rwa [rule.freshParameterName_of_free h]

/-- The configured name ends in a digit, two parameters have the same name, and the numbers that are
taken leave a gap. -/
theorem freshParameterName_in_gap :
    let rule : RequiredTag := { parameterName := "t1" }
    let parameters : List Parameter :=
      ["t11", "t1", "t13", "t11"].map fun name => { name, typeRef := .resolved "kotlin.String" }
    rule.freshParameterName parameters = "t12" ∧
      Searches (parameters.map (·.name)) "t1" 1 2 "t12" := by
  intro rule parameters
  have hname : rule.freshParameterName parameters = "t12" := by decide
  obtain ⟨-, htaken, -⟩ := freshParameterName_is_least_free rule parameters
  obtain ⟨number, -, -, hsearches, hfound, -⟩ := htaken (by decide)
  have htwo : "t1" ++ toString number = "t1" ++ toString 2 := hfound.symm.trans hname
  obtain rfl := eq_of_toString_eq ((String.append_right_inj "t1").1 htwo)
  rw [hname] at hsearches
  exact ⟨hname, hsearches⟩

end RequiredTag

end DeclLint
