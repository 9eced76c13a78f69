import DeclLint.Rule.Context
import DeclLint.Rule.Setting

/-!
# Rules

`LintRule ρ` says that the values of `ρ` are rules. The engine works for any such type, so rules of
different kinds run together as values of one sum type.

Looking at a node may break off (`LintRule.overflows`). Then the rule's findings do not count, nor
do those of the other rules: the run as a whole has no result.
-/

namespace DeclLint

/-- What the engine asks of a rule. -/
class LintRule (ρ : Type) where
  /-- the name, by which a section of the settings refers to the rule -/
  name : ρ → String
  /-- the code of the rule's main finding -/
  code : ρ → String
  /-- what the rule is for -/
  description : ρ → String
  /-- the severity of its findings, unless the settings override it -/
  severity : ρ → Severity
  /-- the kinds of nodes the rule wants to see -/
  interests : ρ → List NodeKind
  /-- takes the options of a section -/
  configure : RuleSettings → ρ → Configured ρ
  /-- what the rule has to say about a node -/
  check : ρ → UnitContext → Node → List Violation
  /-- whether looking at a node breaks off because an offset overflows -/
  overflows : ρ → UnitContext → Node → Bool := fun _ _ _ => false

namespace Configured

variable {α β : Type}

/-- Regards the rule as one of a wider type. -/
def map (f : α → β) (configured : Configured α) : Configured β where
  rule := f configured.rule
  error := configured.error

end Configured

/-- Rules of two kinds side by side. -/
instance {α β : Type} [LintRule α] [LintRule β] : LintRule (α ⊕ β) where
  name := Sum.elim LintRule.name LintRule.name
  code := Sum.elim LintRule.code LintRule.code
  description := Sum.elim LintRule.description LintRule.description
  severity := Sum.elim LintRule.severity LintRule.severity
  interests := Sum.elim LintRule.interests LintRule.interests
  configure settings := Sum.elim
    (fun rule => (LintRule.configure settings rule).map Sum.inl)
    (fun rule => (LintRule.configure settings rule).map Sum.inr)
  check := Sum.elim LintRule.check LintRule.check
  overflows := Sum.elim LintRule.overflows LintRule.overflows

end DeclLint
