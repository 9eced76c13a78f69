import DeclLint.Rule.Basic

/-!
# Internal APIs stay inside their module

Declarations that carry the marker annotation belong to the restricted module. Outside of it

* no declaration may carry the marker (`PL001`);
* no injected field, and no parameter of an injected constructor, may have a type of the restricted
  module that carries the marker (`PL002`).

Declarations inside the restricted module are not checked.
-/

namespace DeclLint

/-- The rule `internal-api-boundary`. -/
structure InternalApiBoundary where
  /-- the severity of its findings -/
  severity : Severity := .error
  /-- the annotation that marks internal APIs -/
  marker : String := "de.zalando.lounge.annotations.InternalPlatformApi"
  /-- the annotation that marks injected fields and constructors -/
  injection : String := "javax.inject.Inject"
  /-- the path of the restricted module -/
  restrictedModule : Path := ⟨"platform"⟩
deriving Repr, Inhabited

namespace InternalApiBoundary

/-- The name of the rule. -/
def name : String := "internal-api-boundary"

/-- The code for a marker outside the restricted module. -/
def code : String := "PL001"

/-- The code for the use of a marked type outside the restricted module. -/
def usageCode : String := "PL002"

/-- The options of the rule. -/
def settings : List (Setting InternalApiBoundary) := [
  .qualifiedName "marker" fun value rule => { rule with marker := value },
  .qualifiedName "injection" fun value rule => { rule with injection := value },
  .modulePath "restricted_module" fun value rule => { rule with restrictedModule := ⟨value⟩ }]

variable (rule : InternalApiBoundary) (context : UnitContext)

/-- Whether a declaration belongs to the restricted module. -/
def isRestricted (declaration : Declaration) : Bool :=
  declaration.modulePath.startsWith rule.restrictedModule

/-- Reports the marker on a declaration. -/
def checkMarked (declaration : Declaration) : Option Violation :=
  (findAnnotation? declaration.annotations rule.marker).map fun use =>
    context.violation code name rule.severity
      [use.range, declaration.nameRange, declaration.range]
      ("Only classes in `" ++ rule.restrictedModule.text ++ "` can be annotated with `" ++
        simpleName rule.marker ++ "`")

/-- Reports the use of a type that is internal to the restricted module. -/
def checkUsage (type : TypeRef) (fallback : Option Range) : Option Violation := do
  let target ← context.oracle.resolve type
  if (findAnnotation? target.annotations rule.marker).isSome && rule.isRestricted target then
    let violation := context.violation usageCode name rule.severity [type.range, fallback]
      ("`" ++ target.name ++ "` is a platform internal API")
    return violation.withSuggestion { message := "Depend on a public platform API instead" }
  else
    none

/-- Reports what an injected member uses. -/
def checkMember (member : Member) : List Violation :=
  if (findAnnotation? member.annotations rule.injection).isNone then
    []
  else
    match member.kind with
    | .field =>
      match member.declaredType with
      | some type => (rule.checkUsage context type member.range).toList
      | none => []
    | .constructor =>
      member.userParameters.filterMap fun parameter =>
        rule.checkUsage context parameter.typeRef parameter.range
    | .method | .initializer => []

/-- Checks a declaration. -/
def checkDeclaration (declaration : Declaration) : List Violation :=
  if rule.isRestricted declaration then
    []
  else
    (rule.checkMarked context declaration).toList ++
      declaration.members.flatMap (rule.checkMember context)

instance : LintRule InternalApiBoundary where
  name _ := name
  code _ := code
  description _ := "Keeps internal platform APIs inside the platform module"
  severity := severity
  interests _ := [.declaration]
  configure := Setting.configure name settings
  check rule context
    | .declaration declaration => rule.checkDeclaration context declaration
    | _ => []

end InternalApiBoundary

end DeclLint
