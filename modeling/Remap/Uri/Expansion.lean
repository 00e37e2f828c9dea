import Remap.Json.Writer
import Remap.Uri.Percent
import Remap.Uri.Template

set_option relaxedAutoImplicit false
set_option autoImplicit false

/-!
# Expansion of URI templates

A template is expanded by the members of an object of parameters. A variable takes the text of its
parameter, or its default value where the parameter is missing or null. A variable without a value
is left out if it is an optional segment and an error otherwise; so is an array or an object.

## Main definitions

* `Remap.Uri.ExpandError` — why an expansion fails, with its message.
* `Remap.Uri.Variable.value?` — the text that a variable takes.
* `Remap.Uri.Template.expand` — the URI of a template.

## Main results

* `Remap.Uri.expandParts_append` — parts expand one after the other.
-/

namespace Remap.Uri

/-- Why a template cannot be expanded. -/
inductive ExpandError where
  | notScalar (name : String)
  | missing (name : String)
  deriving DecidableEq, Repr

/-- The text of an expansion error. -/
def ExpandError.message : ExpandError → String
  | .notScalar name => s!"Parameter '{name}' must be a scalar value"
  | .missing name => s!"Missing required parameter: {name}"

/-- The text of a parameter. Null counts as missing. -/
def parameterText (name : String) : Json → Except ExpandError (Option String)
  | .null => .ok none
  | .bool value => .ok (some (if value then "true" else "false"))
  | .number value => .ok (some value.text)
  | .string value => .ok (some value)
  | .array _ => .error (.notScalar name)
  | .object _ => .error (.notScalar name)

/-- The text that a variable takes: that of its parameter, or else its default value. -/
def Variable.value? (v : Variable) (params : Json) : Except ExpandError (Option String) :=
  match params.member? v.name with
  | none => .ok v.fallback
  | some value => (parameterText v.name value).map fun text => text.or v.fallback

/-- The text of a variable that has a value. -/
def Operator.insert (operator : Operator) (value : List Char) : List Char :=
  match operator with
  | .simple => percentEncode value
  | .reserved => value
  | .segment => '/' :: percentEncode value

/-- The text of a part. -/
def Part.expand (params : Json) : Part → Except ExpandError (List Char)
  | .literal text => .ok text.toList
  | .variable v =>
    match v.value? params with
    | .error error => .error error
    | .ok (some value) => .ok (v.operator.insert value.toList)
    | .ok none => if v.operator = .segment then .ok [] else .error (.missing v.name)

/-- The texts of the parts, joined; the error of the first part that fails. -/
def expandParts (params : Json) : List Part → Except ExpandError (List Char)
  | [] => .ok []
  | part :: rest =>
    match part.expand params with
    | .error error => .error error
    | .ok text => (expandParts params rest).map (text ++ ·)

/-- The URI that the template expands to. -/
def Template.expand (t : Template) (params : Json) : Except ExpandError String :=
  (expandParts params t.parts).map String.ofList

/-- Parts expand one after the other, and the first failure is that of the whole. -/
theorem expandParts_append (params : Json) (front back : List Part) :
    expandParts params (front ++ back) =
      (expandParts params front).bind fun text =>
        (expandParts params back).map (text ++ ·) := by
  induction front with
  | nil => cases h : expandParts params back <;> simp [expandParts, Except.bind, Except.map, h]
  | cons part rest ih =>
    simp only [List.cons_append, expandParts]
    cases part.expand params with
    | error error => rfl
    | ok text =>
      simp only [ih]
      cases expandParts params rest with
      | error error => rfl
      | ok text' =>
        cases expandParts params back <;> simp [Except.bind, Except.map, List.append_assoc]

end Remap.Uri
