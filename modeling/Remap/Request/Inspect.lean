import Remap.Request.Assignment
import Remap.Text.Escaped

set_option relaxedAutoImplicit false
set_option autoImplicit false

/-!
# Inspection of assignments

A text that shows what a leaf was compiled to: the name of each structure with its fields, and
every value under the name of its kind.

## Main definitions

* `Remap.Json.inspect`, `Remap.Uri.Template.inspect`, `Remap.Request.Assignment.inspect`.
-/

namespace Remap

namespace Text

/-- A structure with its fields. -/
def inspectRecord (name : String) (fields : List (String × String)) : String :=
  name ++ " \x7b " ++ ", ".intercalate (fields.map fun (field, value) => field ++ ": " ++ value) ++
    " \x7d"

/-- A value under the name of its kind. -/
def inspectTagged (name value : String) : String :=
  name ++ "(" ++ value ++ ")"

/-- A list of values. -/
def inspectList (values : List String) : String :=
  "[" ++ ", ".intercalate values ++ "]"

end Text

namespace Json

mutual

/-- The value under the name of its kind. -/
def inspect : Json → String
  | .null => "Null"
  | .bool value => Text.inspectTagged "Bool" (if value then "true" else "false")
  | .number value => Text.inspectTagged "Number" value.text
  | .string value => Text.inspectTagged "String" (Text.quoted value)
  | .array items => "Array " ++ Text.inspectList (inspectItems items)
  | .object members => "Object \x7b" ++ ", ".intercalate (inspectMembers members) ++ "\x7d"

/-- The items of an array. -/
def inspectItems : List Json → List String
  | [] => []
  | item :: rest => item.inspect :: inspectItems rest

/-- The members of an object. -/
def inspectMembers : List (String × Json) → List String
  | [] => []
  | (name, value) :: rest => (Text.quoted name ++ ": " ++ value.inspect) :: inspectMembers rest

end

end Json

namespace Uri

/-- The name of an operator. -/
def Operator.inspect : Operator → String
  | .simple => "Simple"
  | .reserved => "Reserved"
  | .segment => "PathSegment"

/-- A variable with its fields. -/
def Variable.inspect (v : Variable) : String :=
  Text.inspectRecord "VariableExpr" [
    ("name", Text.quoted v.name),
    ("operator", v.operator.inspect),
    ("default", match v.fallback with
      | some text => Text.inspectTagged "Some" (Text.quoted text)
      | none => "None")]

/-- A part under the name of its kind. -/
def Part.inspect : Part → String
  | .literal text => Text.inspectTagged "Literal" (Text.quoted text)
  | .variable value => Text.inspectTagged "Variable" value.inspect

/-- A template with its parts. -/
def Template.inspect (t : Template) : String :=
  Text.inspectRecord "UriTemplate" [("parts", Text.inspectList (t.parts.map Part.inspect))]

end Uri

/-- An assignment with its path and what it writes. -/
def Request.Assignment.inspect (a : Request.Assignment) : String :=
  let path := ("path", Text.quoted a.target.path)
  match a.content with
  | .literal value => Text.inspectRecord "Literal" [path, ("value", value.inspect)]
  | .expression source _ =>
    Text.inspectRecord "Placeholder" [path, ("expression", Text.quoted source)]
  | .uri template => Text.inspectRecord "UriTemplate" [path, ("template", template.inspect)]

end Remap
