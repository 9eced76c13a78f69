import DeclLint.Engine
import DeclLint.Rules.Builtin

/-!
# Presets

A preset is a set of built-in rules with their default options. `Preset.engine` builds the engine a
configuration asks for; an unknown preset is an error and stands for the recommended one.
-/

namespace DeclLint

/-- A choice of rules. -/
inductive Preset where
  /-- all rules but the one about produced states -/
  | recommended
  /-- all rules -/
  | strict
  /-- the rule about internal APIs only -/
  | minimal
deriving DecidableEq, Repr, Inhabited

namespace Preset

/-- The recommended rules. -/
def recommendedRules : List Builtin := [
  .internalApiBoundary {}, .requiredTag {}, .mandatoryCall {}, .nonVoidMemoization {},
  .restrictedOperator {}]

/-- All built-in rules. -/
def allRules : List Builtin := recommendedRules ++ [.producingState {}]

/-- The rules of a preset. -/
def rules : Preset → List Builtin
  | recommended => recommendedRules
  | strict => allRules
  | minimal => [.internalApiBoundary {}]

/-- The preset of the given name. -/
def ofName? : String → Option Preset
  | "recommended" => some recommended
  | "strict" => some strict
  | "minimal" => some minimal
  | _ => none

/-- The preset the settings name, the recommended one if they name none. -/
def ofSettings (settings : Settings) : Except SettingsError Preset :=
  match settings.preset with
  | none => .ok recommended
  | some name =>
    match ofName? name with
    | some preset => .ok preset
    | none => .error (.unknownPreset name)

/-- The engine for the settings. Sections for rules outside the preset are ignored. -/
def engine (settings : Settings) : Engine Builtin :=
  let known := allRules.map Builtin.name
  match ofSettings settings with
  | .ok preset => Engine.build preset.rules known [] settings
  | .error error => Engine.build recommended.rules known [error] settings

end Preset

end DeclLint
