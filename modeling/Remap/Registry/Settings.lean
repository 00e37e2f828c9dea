import Remap.Json.Writer
import Remap.Text.Escaped

set_option relaxedAutoImplicit false
set_option autoImplicit false

/-!
# Settings of a template

A configured template has a name, may have a description, and has a spec, called its request.
Settings are read from and written as a JSON object; other members of the object are ignored. They
may also be given as an array of the three values in this order.

## Main definitions

* `Remap.Settings` — a configured template.
* `Remap.Settings.ofJson`, `Remap.Settings.toJson` — its JSON form.
* `Remap.SettingsError` — why a value is no settings, with its message.
-/

namespace Remap

/-- A configured template. -/
structure Settings where
  name : String
  description : Option String
  request : Json

/-- Why a value is no settings. -/
inductive SettingsError where
  | missingField (name : String)
  | notAString (found : Json)
  | notAStructure (found : Json)
  | tooShort (length : Nat)
  | tooLong (length : Nat)

namespace SettingsError

/-- The kind of a value with its text where that is short. -/
def kindText : Json → String
  | .null => "null"
  | .bool value => s!"boolean \x60{value}\x60"
  | .number (.integer value) => s!"integer \x60{value}\x60"
  | .number (.double value) => s!"floating point \x60{(Json.Number.double value).text}\x60"
  | .string value => s!"string {Text.quoted value}"
  | .array _ => "sequence"
  | .object _ => "map"

/-- The text of a settings error. -/
def message : SettingsError → String
  | .missingField name => s!"missing field \x60{name}\x60"
  | .notAString found => s!"invalid type: {kindText found}, expected a string"
  | .notAStructure found =>
    s!"invalid type: {kindText found}, expected struct TemplateSettings"
  | .tooShort length =>
    s!"invalid length {length}, expected struct TemplateSettings with 3 elements"
  | .tooLong length => s!"invalid length {length}, expected fewer elements in array"

end SettingsError

namespace Settings

/-- The text of a string. -/
def textOf : Json → Except SettingsError String
  | .string text => .ok text
  | other => .error (.notAString other)

/-- The text of a string, or none for null. -/
def optionalTextOf : Json → Except SettingsError (Option String)
  | .null => .ok none
  | other => (textOf other).map some

/-- Checks the members in order: the name and the description must be texts. -/
def checkMembers : Members → Except SettingsError Unit
  | [] => .ok ()
  | (key, value) :: rest =>
    if key = "name" then
      match textOf value with
      | .ok _ => checkMembers rest
      | .error error => .error error
    else if key = "description" then
      match optionalTextOf value with
      | .ok _ => checkMembers rest
      | .error error => .error error
    else checkMembers rest

/-- The settings of an object. Members of the wrong kind are reported before missing ones, the name
before the request. -/
def ofMembers (members : Members) : Except SettingsError Settings := do
  checkMembers members
  match Members.get? members "name" with
  | none => .error (.missingField "name")
  | some name =>
    match Members.get? members "request" with
    | none => .error (.missingField "request")
    | some request =>
      return ⟨← textOf name,
        ← optionalTextOf ((Members.get? members "description").getD .null), request⟩

/-- The settings of an array. -/
def ofItems (items : List Json) : Except SettingsError Settings :=
  match items with
  | [] => .error (.tooShort 0)
  | name :: rest => do
    let name ← textOf name
    match rest with
    | [] => .error (.tooShort 2)
    | description :: rest =>
      let description ← optionalTextOf description
      match rest with
      | [] => .error (.tooShort 2)
      | [request] => return ⟨name, description, request⟩
      | _ => .error (.tooLong items.length)

/-- The settings that a value holds. -/
def ofJson : Json → Except SettingsError Settings
  | .object members => ofMembers members
  | .array items => ofItems items
  | other => .error (.notAStructure other)

/-- The settings as an object, without a description if there is none. -/
def toJson (s : Settings) : Json :=
  let description : Members := match s.description with
    | some text => [("description", .string text)]
    | none => []
  .object ([("name", Json.string s.name)] ++ description ++ [("request", s.request)])

end Settings

end Remap
