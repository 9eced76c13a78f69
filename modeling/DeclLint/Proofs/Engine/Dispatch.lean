import DeclLint.Engine
import DeclLint.Proofs.Code.Places
import Mathlib.Data.List.Basic

/-!
# Dispatch, node by node

The engine shows a unit to its rules as a list of nodes: each declaration, then its methods, then
its calls in source order. The findings of a unit are the findings about these nodes, in this order
(`Engine.analyzeUnit_eq`).

At a node, exactly the rules that are switched on and want to see nodes of its kind are asked
(`Engine.dispatch_eq`). With the places of calls in the code of a declaration, this says all that
dispatch does (`Engine.analyzeUnit_visits_every_node`).
-/

namespace DeclLint

/-- **What the nodes of a unit are**: its declarations, their methods and all calls in them. Fields
and constructors are no nodes, but rules find them in the declarations. -/
theorem CompilationUnit.mem_nodes {unit : CompilationUnit} {node : Node} :
    node ∈ unit.nodes ↔ ∃ declaration ∈ unit.declarations, node = .declaration declaration ∨
      (∃ member ∈ declaration.members, member.kind = .method ∧ node = .method declaration member) ∨
      ∃ call ∈ declaration.calls, node = .call declaration call := by
  simp only [nodes, Declaration.nodes, List.mem_flatMap, List.mem_cons, List.mem_append,
    List.mem_map, List.mem_filter, beq_iff_eq, and_assoc, @eq_comm Node]

namespace Engine

variable {ρ : Type} [LintRule ρ] (engine : Engine ρ)

/-- The calls of a declaration are checked on a walk that collects findings. What comes out is what
its nodes give, one after the other. -/
theorem checkDeclaration_eq (context : UnitContext) (declaration : Declaration) :
    engine.checkDeclaration context declaration =
      declaration.nodes.flatMap (engine.dispatch context) := by
  have hcalls : (declaration.walkCalls (Walk.collect fun call found =>
      found ++ engine.dispatch context (.call declaration call)) []).2 =
        declaration.calls.flatMap fun call => engine.dispatch context (.call declaration call) := by
    rw [Declaration.walkCalls_eq_each, Walk.each_collect, List.flatMap_eq_foldl]
  rw [checkDeclaration, hcalls, Declaration.nodes, List.flatMap_cons, List.flatMap_append,
    List.flatMap_map, List.flatMap_map, List.append_assoc]

/-- **The findings of a unit** are those about its nodes, one after the other, before they are
sorted. -/
theorem analyzeUnit_eq (oracle : Oracle) (unit : CompilationUnit) :
    engine.analyzeUnit oracle unit = unit.nodes.flatMap (engine.dispatch ⟨unit, oracle⟩) := by
  rw [analyzeUnit, CompilationUnit.nodes, List.flatMap_assoc]
  congr 1
  funext declaration
  exact engine.checkDeclaration_eq ⟨unit, oracle⟩ declaration

/-- The rules that see nodes of a kind, in the order in which they were registered. -/
def rulesFor (kind : NodeKind) : List ρ :=
  engine.rules.filter fun rule =>
    engine.settings.isEnabled (LintRule.name rule) && (LintRule.interests rule).contains kind

/-- What the rules that see a node have to say about it, with the severities that are set for
them. -/
def findingsAt (context : UnitContext) (node : Node) : List Violation :=
  (engine.rulesFor node.kind).flatMap fun rule =>
    engine.overrideSeverity rule (LintRule.check rule context node)

/-- A rule that does not want to see a node has nothing to say, so it may as well not be asked. -/
theorem flatMap_checkNode (context : UnitContext) (node : Node) (rules : List ρ) :
    rules.flatMap (engine.checkNode context node) =
      (rules.filter fun rule => (LintRule.interests rule).contains node.kind).flatMap fun rule =>
        engine.overrideSeverity rule (LintRule.check rule context node) := by
  induction rules with
  | nil => rfl
  | cons rule rules ih =>
    rw [List.flatMap_cons, checkNode, ih, List.filter_cons]
    split
    · rw [List.flatMap_cons]
    · rfl

/-- **A node is shown to exactly the rules that see its kind**, in the order of the rules, as long
as they are switched on. -/
theorem dispatch_eq (context : UnitContext) (node : Node) :
    engine.dispatch context node = engine.findingsAt context node := by
  rw [dispatch, flatMap_checkNode, activeRules, List.filter_filter, findingsAt, rulesFor]
  simp only [Bool.and_comm]

/-- **Dispatch visits every node once**: the findings of a unit are, declaration by declaration,
those about the declaration, about its methods and about every call at any place of its code, in the
order of the source. -/
theorem analyzeUnit_visits_every_node (oracle : Oracle) (unit : CompilationUnit) :
    ∃ calls : Declaration → List Call,
      (∀ declaration : Declaration, declaration.code.ListsCalls (calls declaration)) ∧
      engine.analyzeUnit oracle unit = unit.declarations.flatMap fun declaration =>
        engine.findingsAt ⟨unit, oracle⟩ (.declaration declaration) ++
        (declaration.members.filter (·.kind == .method)).flatMap (fun member =>
          engine.findingsAt ⟨unit, oracle⟩ (.method declaration member)) ++
        (calls declaration).flatMap fun call =>
          engine.findingsAt ⟨unit, oracle⟩ (.call declaration call) := by
  refine ⟨Declaration.calls, Declaration.listsCalls_calls, ?_⟩
  rw [analyzeUnit_eq, CompilationUnit.nodes, List.flatMap_assoc]
  refine List.flatMap_congr fun declaration _ => ?_
  rw [Declaration.nodes, List.flatMap_cons, List.flatMap_append, List.flatMap_map, List.flatMap_map,
    List.append_assoc]
  simp only [dispatch_eq]

end Engine

end DeclLint
