import DeclLint.Edit.Layout
import DeclLint.Rule.Basic

/-!
# Remote operations take a trace tag

A method with one of the annotations for remote operations has to take a parameter that carries the
tag annotation and is of the tag's base type.

* `PL003`: no such parameter, not even of a subtype. The fix adds one at the end of the parameter
  list, laid out as the list is.
* `PL004`: a tagged parameter of a proper subtype; tags are looked up by their exact type. The fix
  changes the type.

The continuation of suspending functions is no parameter in this sense.
-/

namespace DeclLint

/-- The rule `required-tag`. -/
structure RequiredTag where
  /-- the severity of its findings -/
  severity : Severity := .error
  /-- the annotations that mark remote operations -/
  remoteOperations : List String :=
    ["retrofit2.http.GET", "retrofit2.http.POST", "retrofit2.http.PUT", "retrofit2.http.DELETE"]
  /-- the annotation of the tag parameter -/
  tagMarker : String := "retrofit2.http.Tag"
  /-- the type of the tag parameter -/
  tagBase : String := "me.jansv.internallib.NetworkTraceOp"
  /-- the name given to an inserted parameter -/
  parameterName : String := "tag"
deriving Repr, Inhabited

namespace RequiredTag

/-- The name of the rule. -/
def name : String := "required-tag"

/-- The code for a missing tag. -/
def code : String := "PL003"

/-- The code for a tag of the wrong type. -/
def wrongTypeCode : String := "PL004"

/-- The options of the rule. -/
def settings : List (Setting RequiredTag) := [
  .qualifiedNames "remote_operations" fun value rule => { rule with remoteOperations := value },
  .qualifiedName "tag_marker" fun value rule => { rule with tagMarker := value },
  .qualifiedName "tag_base" fun value rule => { rule with tagBase := value },
  .identifier "parameter_name" fun value rule => { rule with parameterName := value }]

variable (rule : RequiredTag) (context : UnitContext)

/-- Whether a member is a remote operation. -/
def isRemoteOperation (member : Member) : Bool :=
  rule.remoteOperations.any fun marker =>
    (findAnnotation? member.annotations marker).isSome

/-- Whether a parameter carries the tag annotation. -/
def isTag (parameter : Parameter) : Bool :=
  (findAnnotation? parameter.annotations rule.tagMarker).isSome

/-- Whether a parameter is a tag of the base type or a subtype. -/
def isUsableTag (parameter : Parameter) : Bool :=
  rule.isTag parameter && context.oracle.isSubtypeOf parameter.typeRef rule.tagBase

/-- Whether a parameter is a tag of a proper subtype of the base type. -/
def isWrongTag (parameter : Parameter) : Bool :=
  rule.isUsableTag context parameter && !parameter.typeRef.isNamed rule.tagBase

/-! ### The missing tag -/

/-- The first of `base` followed by `number`, `number + 1`, … that is not taken, within `more`
steps. The numbers are not bounded: a method has as many parameters as it likes. -/
def firstFree (taken : List String) (base : String) : (more number : Nat) → String
  | 0, number => base ++ toString number
  | more + 1, number =>
    let candidate := base ++ toString number
    if taken.contains candidate then firstFree taken base more (number + 1) else candidate

/-- The configured parameter name, with the least number behind it that makes it new. Of as many
numbers as there are parameters, and the plain name, one is always free. -/
def freshParameterName (parameters : List Parameter) : String :=
  let taken := parameters.map (·.name)
  if taken.contains rule.parameterName then
    firstFree taken rule.parameterName taken.length 1
  else
    rule.parameterName

/-- How a list without parameters is laid out. -/
def emptyShape (member : Member) (list : Range) : Layout.ListShape :=
  let outer := match member.range with
    | some range => context.indentOf range
    | none => ""
  { hasItems := false
    multiline := !list.isSingleLine
    indent := outer ++ Layout.indentStep outer }

/-- The place behind the last of some parameters, and how their list is laid out. Nothing is known
where the ranges of the parameters are not. -/
def pointBehind (list : Range) (parameters : List Parameter) (last : Parameter) :
    Option (Nat × Layout.ListShape) := do
  let lastRange ← last.range
  let multiline ←
    if parameters.length = 1 then
      some (!list.isSingleLine)
    else do
      let lines ← parameters.mapM fun parameter => parameter.range.map (·.start.line)
      some (Layout.spansLines lines)
  return (lastRange.stop.offset,
    { hasItems := true, multiline, indent := context.indentOf lastRange })

/-- Where a new parameter goes, and how the list it joins is laid out. Nothing is known where the
ranges of the list or of its parameters are not. The place in a list without parameters is the one
behind the bracket, whose offset may overflow. -/
def insertionPoint (member : Member) : Except Overflow (Option (Nat × Layout.ListShape)) :=
  match member.parameterList, member.userParameters.getLast? with
  | none, _ => .ok none
  | some list, none =>
    (Text.offsetAdd list.start.offset 1).map fun offset =>
      some (offset, emptyShape context member list)
  | some list, some last => .ok (pointBehind context list member.userParameters last)

/-- The fix that adds a tag parameter. -/
def insertTagFix (member : Member) : Except Overflow (Option Fix) :=
  (insertionPoint context member).map <| Option.map fun (offset, shape) =>
    let item := "@" ++ rule.tagMarker ++ " " ++ rule.freshParameterName member.userParameters ++
      ": " ++ rule.tagBase
    Fix.insertion ("Insert a `" ++ simpleName rule.tagBase ++ "` tag") offset
      (Layout.listItemInsertion shape item)

/-- The fix for a missing tag, where there is a place for it. -/
def tagFix? (member : Member) : Option Fix := (rule.insertTagFix context member).toOption.join

/-- Reports a missing tag. -/
def missingTag (member : Member) : Violation :=
  (context.violation code name rule.severity [member.nameRange, member.range]
    ("`" ++ member.name ++ "` is missing a `" ++ simpleName rule.tagBase ++
      "` tag parameter")).withFix (rule.tagFix? context member)

/-! ### The wrong tag -/

/-- Reports a tag of a proper subtype. -/
def wrongTag (parameter : Parameter) : Violation :=
  let base := simpleName rule.tagBase
  (context.violation wrongTypeCode name rule.severity [parameter.typeRef.range, parameter.range]
    ("Trace tag must have `" ++ base ++ "` type")).withFix
      (parameter.typeRef.range.map fun range =>
        Fix.replacement ("Change to `" ++ base ++ "`") range rule.tagBase)

/-- Checks a method. -/
def checkMethod (member : Member) : List Violation :=
  if !rule.isRemoteOperation member then
    []
  else if member.userParameters.any (rule.isUsableTag context) then
    (member.userParameters.filter (rule.isWrongTag context)).map (rule.wrongTag context)
  else
    [rule.missingTag context member]

/-- Whether checking a method breaks off: it has to take a tag and takes none, and the offset of the
place for one overflows. -/
def overflows (member : Member) : Bool :=
  rule.isRemoteOperation member && !member.userParameters.any (rule.isUsableTag context) &&
    (rule.insertTagFix context member).toOption.isNone

instance : LintRule RequiredTag where
  name _ := name
  code _ := code
  description _ := "Requires remote operations to take a trace tag parameter"
  severity := severity
  interests _ := [.method]
  configure := Setting.configure name settings
  check rule context
    | .method _ member => rule.checkMethod context member
    | _ => []
  overflows rule context
    | .method _ member => rule.overflows context member
    | _ => false

end RequiredTag

end DeclLint
