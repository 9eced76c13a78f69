import DeclLint.Proofs.Engine.Alike
import DeclLint.Proofs.Engine.Isolation
import DeclLint.Proofs.Engine.Report

/-!
# The order of units does not matter

A finding of a built-in rule lies in the file of its unit, and findings with the same key lie in the
same file. So findings of different files never tie, and a stable sort brings those of one file back
into the order in which they were made, wherever their unit stood (`Engine.mergeSort_found_perm`).

When the units are resolved against themselves, their order matters to the symbol table only where a
name is declared in more than one of them (`SymbolTable.sameDeclarations_of_perm`).

Both arguments come down to one: of the units, at most one has anything to contribute, so it makes
no difference where it stands (`flatMap_eq_of_perm`).
-/

namespace DeclLint

/-- Lists may be put together in any order when at most one of them is not empty. The induction is
on the permutation. -/
theorem flatMap_eq_of_perm {α β : Type} {f : α → List β} {xs ys : List α} (hperm : xs.Perm ys)
    (hone : xs.Pairwise fun a b => f a = [] ∨ f b = []) : xs.flatMap f = ys.flatMap f := by
  induction hperm with
  | nil => rfl
  | cons a _ ih => rw [List.flatMap_cons, List.flatMap_cons, ih hone.of_cons]
  | swap a b rest =>
    have hba : f b = [] ∨ f a = [] := List.rel_of_pairwise_cons hone List.mem_cons_self
    simp only [List.flatMap_cons]
    rcases hba with hb | ha
    · rw [hb, List.nil_append, List.nil_append]
    · rw [ha, List.nil_append, List.nil_append]
  | trans hxy _ ih ih' =>
    exact (ih hone).trans (ih' (hxy.pairwise hone Or.symm))

/-! ### Tables -/

/-- The table of units does not depend on their order, where no name is declared in two of them.
Otherwise the first unit would win. -/
theorem SymbolTable.sameDeclarations_of_perm {units permuted : List CompilationUnit}
    (hperm : permuted.Perm units)
    (hnames : units.Pairwise fun a b => ∀ d ∈ a.declarations, ∀ e ∈ b.declarations,
      d.qualifiedName ≠ e.qualifiedName) :
    (ofUnits permuted).oracle.SameDeclarations (ofUnits units).oracle := by
  funext name
  change (ofUnits permuted).declaration name = (ofUnits units).declaration name
  rw [declaration_ofUnits, declaration_ofUnits, ← List.head?_filter, ← List.head?_filter,
    List.filter_flatMap, List.filter_flatMap]
  refine congrArg List.head? (flatMap_eq_of_perm hperm.symm (hnames.imp fun {a b} hab => ?_)).symm
  by_contra hboth
  obtain ⟨ha, hb⟩ := not_or.1 hboth
  obtain ⟨d, hd⟩ := List.exists_mem_of_ne_nil _ ha
  obtain ⟨e, he⟩ := List.exists_mem_of_ne_nil _ hb
  obtain ⟨hda, hdname⟩ := List.mem_filter.1 hd
  obtain ⟨heb, hename⟩ := List.mem_filter.1 he
  exact hab d hda e heb ((beq_iff_eq.1 hdname).trans (beq_iff_eq.1 hename).symm)

/-! ### Files -/

theorem UnitContext.file_location (context : UnitContext) (ranges : List (Option Range)) :
    (context.location ranges).file = context.unit.path := by
  rw [location]
  split <;> rfl

namespace Engine

variable {engine : Engine Builtin} {oracle : Oracle} {unit : CompilationUnit}
  {units permuted : List CompilationUnit} {violation made : Violation}

/-- **A finding lies in the file of its unit**, as every rule takes the place of a finding from its
context. -/
theorem file_of_mem_analyzeUnit (h : violation ∈ engine.analyzeUnit oracle unit) :
    violation.location.file = unit.path := by
  obtain ⟨node, -, rule, made, hmade, severity, rfl⟩ := made_of_mem_analyzeUnit h
  obtain ⟨ranges, hlocation⟩ := (Builtin.signed_of_mem_check hmade).place
  rw [hlocation]
  exact UnitContext.file_location _ ranges

/-- What a unit finds ties with a finding only if that lies in the file of the unit. -/
theorem components_of_tie (htie : tie le violation made = true)
    (hmade : made ∈ engine.analyzeUnit oracle unit) :
    violation.location.file.components = unit.path.components := by
  have hkey : violation.key = made.key := tie_iff_key_eq.1 htie
  have hfile : violation.location.file.key = made.location.file.key :=
    congrArg (fun key => (ofLex key).1) hkey
  rw [Path.key_eq_iff.1 hfile, file_of_mem_analyzeUnit hmade]

/-- **Sorting undoes the order of units** when their files differ: findings of different units do
not tie, so the order of each class of ties is that of one unit. -/
theorem mergeSort_found_perm (engine : Engine Builtin) (oracle : Oracle)
    (hperm : permuted.Perm units)
    (hpaths : units.Pairwise fun a b => a.path.components ≠ b.path.components) :
    (engine.found oracle permuted).mergeSort le = (engine.found oracle units).mergeSort le := by
  refine eq_of_filter_tie_eq isOrder_le (isStableSort_mergeSort isOrder_le _).ordered
    (isStableSort_mergeSort isOrder_le _).ordered fun violation => ?_
  rw [filter_tie_mergeSort isOrder_le, filter_tie_mergeSort isOrder_le, found, found,
    List.filter_flatMap, List.filter_flatMap]
  refine (flatMap_eq_of_perm hperm.symm (hpaths.imp fun {a b} hab => ?_)).symm
  -- of two units, only the one with the file of `violation` can find anything that ties with it
  by_contra hboth
  obtain ⟨ha, hb⟩ := not_or.1 hboth
  obtain ⟨inA, hinA⟩ := List.exists_mem_of_ne_nil _ ha
  obtain ⟨inB, hinB⟩ := List.exists_mem_of_ne_nil _ hb
  obtain ⟨hmemA, htieA⟩ := List.mem_filter.1 hinA
  obtain ⟨hmemB, htieB⟩ := List.mem_filter.1 hinB
  exact hab ((components_of_tie htieA hmemA).symm.trans (components_of_tie htieB hmemB))

/-- What is reported is what was found, sorted and without repeats, and so is the same for units in
another order. -/
theorem analyze_perm (engine : Engine Builtin) (oracle : Oracle) (hperm : permuted.Perm units)
    (hpaths : units.Pairwise fun a b => a.path.components ≠ b.path.components) :
    engine.analyze oracle permuted = engine.analyze oracle units := by
  have hfound := engine.mergeSort_found_perm oracle hperm hpaths
  rw [found, found] at hfound
  rw [analyze, analyze, hfound, hperm.length_eq]

/-- **The order of units does not matter** when their files differ: against one oracle the result of
a pass is the same, and so it is when the units are resolved against themselves, if no name is
declared in two of them. -/
theorem analyze_eq_of_perm (engine : Engine Builtin) {units permuted : List CompilationUnit}
    (hperm : permuted.Perm units)
    (hpaths : units.Pairwise fun a b => a.path.components ≠ b.path.components) :
    (∀ oracle, engine.analyze oracle permuted = engine.analyze oracle units) ∧
    ((units.Pairwise fun a b => ∀ d ∈ a.declarations, ∀ e ∈ b.declarations,
        d.qualifiedName ≠ e.qualifiedName) →
      engine.analyzeUnits permuted = engine.analyzeUnits units) := by
  refine ⟨fun oracle => engine.analyze_perm oracle hperm hpaths, fun hnames => ?_⟩
  calc engine.analyzeUnits permuted
      = engine.analyze (SymbolTable.ofUnits units).oracle permuted :=
        engine.analyze_congr (SymbolTable.sameDeclarations_of_perm hperm hnames) permuted
    _ = engine.analyzeUnits units := engine.analyze_perm _ hperm hpaths

/-- Two units in both orders, one of which uses what the other declares: each has a finding, and the
results are the same. -/
theorem analyzeUnits_swap :
    let marker : Annotation := { qualifiedName := "Internal" }
    let secret : Declaration :=
      { (Declaration.ofName "app.Secret" .classType).annotate marker with
        modulePath := ⟨"platform"⟩ }
    let field :=
      (Member.field "secret" (.resolved "app.Secret")).annotate { qualifiedName := "Inject" }
    let a : CompilationUnit :=
      { path := ⟨"app/A.kt"⟩
        declarations := [(Declaration.ofName "app.A" .classType).addMember field] }
    let b : CompilationUnit :=
      { path := ⟨"app/B.kt"⟩
        declarations := [secret, (Declaration.ofName "app.B" .classType).annotate marker] }
    let engine := build [Builtin.internalApiBoundary
      { marker := "Internal", injection := "Inject", restrictedModule := ⟨"platform"⟩ }] [] [] {}
    (engine.found (SymbolTable.ofUnits [a, b]).oracle [a, b]).map (·.code) = ["PL002", "PL001"] ∧
      [a, b].Pairwise (fun a b => a.path.components ≠ b.path.components) ∧
      engine.analyzeUnits [b, a] = engine.analyzeUnits [a, b] := by
  intro marker secret field a b engine
  have hpaths : [a, b].Pairwise fun a b => a.path.components ≠ b.path.components := by
    decide +kernel
  refine ⟨by decide +kernel, hpaths, ?_⟩
  exact (analyze_eq_of_perm engine (.swap a b []) hpaths).2 (by decide +kernel)

end Engine

end DeclLint
