import DeclLint.Proofs.Engine.Alike
import DeclLint.Proofs.Engine.Report
import DeclLint.Rules.Preset

/-!
# Source and compiled declarations are equivalent

Whichever declarations of the units and of the library are read from source code and whichever from
a compiled library, a pass has the same result (`Engine.analyze_eq_of_sameButOrigin`). Declarations
that differ in their origin are alike, whatever is asked about parameters, so this is a case of
`Engine.analyze_eq_of_alike`.
-/

namespace DeclLint

/-! ### Code that differs in origins only -/

/-- The declarations are the same but for where they were read from. -/
def Declaration.SameButOrigin (before after : Declaration) : Prop :=
  ∃ origin, after = { before with origin }

/-- The declarations of the units are the same, one by one, but for where they were read from. -/
def CompilationUnit.SameButOrigin (before after : CompilationUnit) : Prop :=
  ∃ declarations, before.declarations.Forall₂ Declaration.SameButOrigin declarations ∧
    after = { before with declarations }

theorem Declaration.SameButOrigin.alike {asked : List (Parameter → Bool)}
    {before after : Declaration} (h : before.SameButOrigin after) : before.Alike asked after := by
  obtain ⟨origin, rfl⟩ := h
  exact ⟨rfl, List.forall₂_same.2 fun member _ => .refl member⟩

theorem CompilationUnit.SameButOrigin.alike {asked : List (Parameter → Bool)}
    {before after : CompilationUnit} (h : before.SameButOrigin after) :
    before.Alike asked after := by
  obtain ⟨declarations, hdeclarations, rfl⟩ := h
  exact ⟨rfl, hdeclarations.imp fun _ _ hdeclaration => hdeclaration.alike⟩

/-! ### Passes -/

namespace Engine

/-- **Source and compiled declarations are equivalent**: changing where declarations of the units
and of the library were read from leaves the result of a pass as it is. -/
theorem analyze_eq_of_sameButOrigin (engine : Engine Builtin) {units units' : List CompilationUnit}
    {library library' : List Declaration}
    (hunits : units.Forall₂ CompilationUnit.SameButOrigin units')
    (hlibrary : library.Forall₂ Declaration.SameButOrigin library') :
    engine.analyze ((SymbolTable.ofUnits units').insertAll library').oracle units' =
      engine.analyze ((SymbolTable.ofUnits units).insertAll library).oracle units := by
  let asked := engine.questions ((SymbolTable.ofUnits units).insertAll library).oracle
  have hunits' : units.Forall₂ (CompilationUnit.Alike asked) units' :=
    hunits.imp fun _ _ hunit => hunit.alike
  have hlibrary' : library.Forall₂ (Declaration.Alike asked) library' :=
    hlibrary.imp fun _ _ hdeclaration => hdeclaration.alike
  exact analyze_eq_of_alike (SymbolTable.alike_oracle hunits' hlibrary') hunits'

/-- A class of a unit and the platform class it has injected change their origins, each to the other
one's. The use of the class is reported in both passes. -/
theorem analyze_swapped_origins :
    let secret (origin : Origin) : Declaration :=
      { (Declaration.ofName "platform.Secret" .classType).annotate
          { qualifiedName := "de.zalando.lounge.annotations.InternalPlatformApi" } with
        modulePath := ⟨"platform"⟩, origin }
    let field := (Member.field "secret" (.resolved "platform.Secret")).annotate
      { qualifiedName := "javax.inject.Inject" }
    let units (origin : Origin) : List CompilationUnit :=
      [{ path := ⟨"Home.kt"⟩
         declarations := [{ (Declaration.ofName "Home" .interface).addMember field with origin }] }]
    let engine := build Preset.allRules [] [] {}
    let oracle (inUnits inLibrary : Origin) : Oracle :=
      ((SymbolTable.ofUnits (units inUnits)).insertAll [secret inLibrary]).oracle
    (engine.found (oracle .source .compiled) (units .source)).map (·.code) = ["PL002"] ∧
      engine.analyze (oracle .compiled .source) (units .compiled) =
        engine.analyze (oracle .source .compiled) (units .source) := by
  intro secret field units engine oracle
  refine ⟨by decide +kernel, analyze_eq_of_sameButOrigin engine ?_ ?_⟩
  · exact .cons ⟨_, .cons ⟨.compiled, rfl⟩ .nil, rfl⟩ .nil
  · exact .cons ⟨.source, rfl⟩ .nil

end Engine

end DeclLint
