import DeclLint.Code.Walk
import DeclLint.Finding.Result
import DeclLint.Rule.Basic
import DeclLint.Settings.Basic
import DeclLint.Symbol.Table

/-!
# The engine

An engine runs rules over units.

* `Engine.build` configures the rules. A rule that refuses its section is left out, and its error
  joins those about the settings as a whole.
* `Engine.analyzeUnit` shows every declaration, then its methods, then its calls to the rules that
  want to see them and are switched on.
* `Engine.analyze` puts the findings of all units in order, drops repeats and puts the findings
  about the settings in front.
* `Engine.run` gives the result of an analysis, unless a rule breaks off on the way.
-/

namespace DeclLint

/-- The nodes of a declaration in the order in which rules see them. -/
def Declaration.nodes (declaration : Declaration) : List Node :=
  .declaration declaration ::
    ((declaration.members.filter (·.kind == .method)).map (.method declaration) ++
      declaration.calls.map (.call declaration))

/-- The nodes of a unit in the order in which rules see them. -/
def CompilationUnit.nodes (unit : CompilationUnit) : List Node :=
  unit.declarations.flatMap Declaration.nodes

/-- The code of findings about the settings. -/
def settingsCode : String := "PL000"

/-- The rule name of findings about the settings. -/
def settingsRule : String := "configuration"

/-- Rules that are ready to run. -/
structure Engine (ρ : Type) where
  /-- the rules, configured -/
  rules : List ρ
  /-- the settings -/
  settings : Settings
  /-- what is wrong with the settings -/
  issues : List SettingsError

namespace Engine

variable {ρ : Type} [LintRule ρ]

/-! ### Building -/

/-- The sections for rules that are neither registered nor known, in ascending order. -/
def unknownSections (rules : List ρ) (known : List String) (settings : Settings) : List String :=
  let names := rules.map LintRule.name
  let sections := (settings.rules.map (·.1)).mergeSort (· ≤ ·)
  sections.filter fun rule => !names.contains rule && !known.contains rule

/-- A rule with its section applied, if it has one. -/
def prepare (settings : Settings) (rule : ρ) : Except SettingsError ρ :=
  match settings.section? (LintRule.name rule) with
  | none => .ok rule
  | some options =>
    let configured := LintRule.configure options rule
    match configured.error with
    | none => .ok configured.rule
    | some error => .error error

/-- Keeps what is there. -/
def accepted {ε α : Type} : Except ε α → Option α
  | .ok a => some a
  | .error _ => none

/-- Keeps the error. -/
def refused {ε α : Type} : Except ε α → Option ε
  | .ok _ => none
  | .error error => some error

/-- Builds an engine from rules, the names of rules that exist besides them, the errors found so far
and the settings. -/
def build (rules : List ρ) (known : List String) (errors : List SettingsError)
    (settings : Settings) : Engine ρ :=
  let prepared := rules.map (prepare settings)
  { rules := prepared.filterMap accepted
    settings
    issues := errors ++ (unknownSections rules known settings).map .unknownRule ++
      prepared.filterMap refused }

/-- The names of the rules that run. -/
def ruleNames (engine : Engine ρ) : List String := engine.rules.map LintRule.name

/-- A finding for each thing that is wrong with the settings. -/
def settingsViolations (engine : Engine ρ) : List Violation :=
  engine.issues.map fun issue =>
    { code := settingsCode
      rule := settingsRule
      severity := .error
      location := .ofLine engine.settings.sourcePath 0 0
      message := issue.message }

/-! ### One unit -/

/-- The rules that are switched on. -/
def activeRules (engine : Engine ρ) : List ρ :=
  engine.rules.filter fun rule => engine.settings.isEnabled (LintRule.name rule)

/-- Gives findings of a rule the severity set for it. -/
def overrideSeverity (engine : Engine ρ) (rule : ρ) (violations : List Violation) :
    List Violation :=
  match engine.settings.severity? (LintRule.name rule) with
  | some severity => violations.map ({ · with severity })
  | none => violations

/-- Shows a node to a rule. -/
def checkNode (engine : Engine ρ) (context : UnitContext) (node : Node) (rule : ρ) :
    List Violation :=
  if (LintRule.interests rule).contains node.kind then
    engine.overrideSeverity rule (LintRule.check rule context node)
  else
    []

/-- Shows a node to all rules that are switched on. -/
def dispatch (engine : Engine ρ) (context : UnitContext) (node : Node) : List Violation :=
  engine.activeRules.flatMap (engine.checkNode context node)

/-- The findings about a declaration, its methods and its calls. -/
def checkDeclaration (engine : Engine ρ) (context : UnitContext) (declaration : Declaration) :
    List Violation :=
  let methods := declaration.members.filter (·.kind == .method)
  engine.dispatch context (.declaration declaration) ++
    methods.flatMap (fun member => engine.dispatch context (.method declaration member)) ++
    (declaration.walkCalls (Walk.collect fun call found =>
      found ++ engine.dispatch context (.call declaration call)) []).2

/-- The findings about a unit, in the order in which they are made. -/
def analyzeUnit (engine : Engine ρ) (oracle : Oracle) (unit : CompilationUnit) : List Violation :=
  unit.declarations.flatMap (engine.checkDeclaration { unit, oracle })

/-! ### All units -/

/-- The order of findings: by file, offset, line, column and code. -/
def cmp : Violation → Violation → Ordering :=
  compareLex (fun a b => a.location.file.cmp b.location.file) <|
  compareLex (compareOn (·.location.offset)) <|
  compareLex (compareOn (·.location.line)) <|
  compareLex (compareOn (·.location.column)) (compareOn (·.code))

/-- Whether two findings may stand in this order. -/
def le (a b : Violation) : Bool := (cmp a b).isLE

/-- What is kept after `previous`. -/
def dropRepeatsAfter (previous : Violation) : List Violation → List Violation
  | [] => []
  | violation :: rest =>
    if violation.location.line != 0 && violation == previous then dropRepeatsAfter previous rest
    else violation :: dropRepeatsAfter violation rest

/-- Drops every finding at a known place that is equal to the one kept before it. -/
def dropRepeats : List Violation → List Violation
  | [] => []
  | first :: rest => first :: dropRepeatsAfter first rest

/-- Runs the rules over units. -/
def analyze (engine : Engine ρ) (oracle : Oracle) (units : List CompilationUnit) : LintResult where
  violations := engine.settingsViolations ++
    dropRepeats ((units.flatMap (engine.analyzeUnit oracle)).mergeSort le)
  unitsChecked := units.length

/-- Whether a rule that is shown the node breaks off. -/
def breaksOff (engine : Engine ρ) (context : UnitContext) (node : Node) : Bool :=
  engine.activeRules.any fun rule =>
    (LintRule.interests rule).contains node.kind && LintRule.overflows rule context node

/-- Runs the rules over units. There is no result where a rule breaks off. -/
def run (engine : Engine ρ) (oracle : Oracle) (units : List CompilationUnit) :
    Except Overflow LintResult :=
  if units.any fun unit => unit.nodes.any (engine.breaksOff { unit, oracle }) then .error .sum
  else .ok (engine.analyze oracle units)

/-- Runs the rules over units that are resolved against themselves. -/
def analyzeUnits (engine : Engine ρ) (units : List CompilationUnit) : LintResult :=
  engine.analyze (SymbolTable.ofUnits units).oracle units

end Engine

end DeclLint
