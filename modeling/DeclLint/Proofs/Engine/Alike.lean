import DeclLint.Proofs.Engine.Dispatch
import DeclLint.Proofs.Rules.Alike

/-!
# Passes over code that is alike

Units that are alike have nodes that are alike, one by one (`CompilationUnit.Alike.nodes`), and no
rule tells such nodes apart (`Builtin.check_eq_of_alike`). So a pass has the same result
(`Engine.analyze_eq_of_alike`), findings and all, as long as the code is alike for everything the
rules of the engine ask.
-/

namespace DeclLint

variable {asked : List (Parameter → Bool)}

/-! ### Nodes -/

/-- Nodes that are alike are of one kind, and so go to the same rules. -/
theorem Node.Alike.kind {before after : Node} (h : before.Alike asked after) :
    after.kind = before.kind := by
  cases h <;> rfl

/-- The methods and calls of declarations that are alike come in the same order. -/
theorem Declaration.Alike.nodes {before after : Declaration} (h : before.Alike asked after) :
    before.nodes.Forall₂ (Node.Alike asked) after.nodes := by
  have hmethods := h.filter_members (p := (·.kind == .method)) fun _ _ hmember => by
    rw [hmember.kind]
  rw [Declaration.nodes, Declaration.nodes, h.calls]
  refine .cons (.declaration h) (List.rel_append ?_ ?_)
  · exact List.rel_map (fun _ _ hmember => .method h hmember) hmethods
  · refine List.rel_map (R := Eq) ?_ (List.forall₂_same.2 fun _ _ => rfl)
    rintro call - rfl
    exact .call call h

/-- **The nodes of units that are alike** are alike, one by one. -/
theorem CompilationUnit.Alike.nodes {before after : CompilationUnit}
    (h : before.Alike asked after) :
    before.nodes.Forall₂ (Node.Alike asked) after.nodes :=
  List.rel_flatMap h.declarations fun _ _ hdeclaration => hdeclaration.nodes

/-! ### Passes -/

namespace Engine

/-- What the rules of an engine ask about parameters that nobody may have written. -/
def questions (engine : Engine Builtin) (oracle : Oracle) : List (Parameter → Bool) :=
  engine.rules.flatMap (·.questions oracle)

variable {engine : Engine Builtin} {before after : Oracle}

/-- The rules of an engine find the same about a node and one that is like it. -/
theorem dispatch_eq_of_alike {unit unit' : CompilationUnit} {node node' : Node}
    (horacle : before.Alike (engine.questions before) after)
    (hunit : unit.Alike (engine.questions before) unit')
    (hnode : node.Alike (engine.questions before) node') :
    engine.dispatch ⟨unit', after⟩ node' = engine.dispatch ⟨unit, before⟩ node := by
  have hcontext : UnitContext.Alike (engine.questions before) ⟨unit, before⟩ ⟨unit', after⟩ := by
    refine ⟨?_, ?_, horacle⟩
    · rw [hunit.same]
    · rw [hunit.same]
  refine List.flatMap_congr fun rule hrule => ?_
  have hasked : rule.questions before ⊆ engine.questions before := by
    intro p hp
    exact List.mem_flatMap.2 ⟨rule, (List.mem_filter.1 hrule).1, hp⟩
  have hcheck :
      LintRule.check rule ⟨unit', after⟩ node' = LintRule.check rule ⟨unit, before⟩ node :=
    Builtin.check_eq_of_alike hcontext hasked hnode
  rw [checkNode, checkNode, hnode.kind, hcheck]

/-- **A pass does not tell code apart that is alike**: it has the same result, down to the order of
the findings. The units come in the same order in both passes. -/
theorem analyze_eq_of_alike {units units' : List CompilationUnit}
    (horacle : before.Alike (engine.questions before) after)
    (hunits : units.Forall₂ (CompilationUnit.Alike (engine.questions before)) units') :
    engine.analyze after units' = engine.analyze before units := by
  have hunit (unit unit' : CompilationUnit) (h : unit.Alike (engine.questions before) unit') :
      engine.analyzeUnit after unit' = engine.analyzeUnit before unit := by
    rw [analyzeUnit_eq, analyzeUnit_eq]
    exact flatMap_eq_of_forall₂ (fun _ _ hnode => dispatch_eq_of_alike horacle h hnode) h.nodes
  have hfound : units'.flatMap (engine.analyzeUnit after) =
      units.flatMap (engine.analyzeUnit before) := flatMap_eq_of_forall₂ hunit hunits
  rw [analyze, analyze, hfound, hunits.length_eq]

/-- A pass depends on the declarations an oracle knows, and on nothing else of it: not on how it
stores them, nor on the order in which it got them. -/
theorem analyze_congr (engine : Engine Builtin) {left right : Oracle}
    (same : left.SameDeclarations right) (units : List CompilationUnit) :
    engine.analyze left units = engine.analyze right units := by
  have hunits : units.Forall₂ (CompilationUnit.Alike (engine.questions left)) units :=
    List.forall₂_same.2 fun unit _ => .refl unit
  exact (analyze_eq_of_alike (.of_sameDeclarations same) hunits).symm

end Engine

end DeclLint
