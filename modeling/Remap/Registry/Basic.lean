import Remap.Registry.Settings
import Remap.Request.Template

set_option relaxedAutoImplicit false
set_option autoImplicit false

/-!
# Registry of templates

A registry holds the compiled templates of a configuration by name, and the names in the order in
which they were declared. It is made of all settings or not at all: a repeated name and a spec that
does not compile are errors.

## Main definitions

* `Remap.Registry` — the compiled templates.
* `Remap.Registry.ofSettings` — the registry of a list of settings.
* `Remap.Registry.template?`, `Remap.Registry.description?`, `Remap.Registry.evaluate?` — what a
  name stands for.
* `Remap.Registry.entries` — what is held, in order.
* `Remap.RegistryError` — why there is no registry, with its messages.
-/

namespace Remap

open Remap.Request (Template TemplateError)

/-- Why a configuration gives no registry. -/
inductive RegistryError where
  /-- The text is not a list of settings in YAML. -/
  | invalidConfiguration
  | duplicateName (name : String)
  | notCompiled (name : String) (reason : TemplateError)

/-- The texts of a registry error, from the outermost cause to the innermost. -/
def RegistryError.messages : RegistryError → List String
  | .invalidConfiguration => ["Invalid yaml configuration"]
  | .duplicateName name => [s!"Duplicate template name: {name}"]
  | .notCompiled name reason => [s!"Failed to compile template '{name}'", reason.message]

/-- A template of a registry. -/
structure Registry.Entry where
  name : String
  description : Option String
  template : Template

/-- Compiled templates. -/
structure Registry where
  /-- The templates that are found by their names. -/
  templates : List Registry.Entry
  /-- The names in the order of their declaration. -/
  names : List String

namespace Registry

/-- The number of templates. -/
def size (r : Registry) : Nat :=
  r.templates.length

/-- What is held under a name. -/
def find? (r : Registry) (name : String) : Option Entry :=
  r.templates.find? fun entry => entry.name = name

/-- The template of a name. -/
def template? (r : Registry) (name : String) : Option Template :=
  (r.find? name).map Entry.template

/-- The description of the template of a name, if it has one. -/
def description? (r : Registry) (name : String) : Option String :=
  (r.find? name).bind Entry.description

/-- What is held under the names, in the order of their declaration. -/
def entries (r : Registry) : List Entry :=
  r.names.filterMap r.find?

/-- The registry with one more entry. -/
def push (r : Registry) (entry : Entry) : Registry :=
  ⟨entry :: r.templates, r.names ++ [entry.name]⟩

/-- A new entry is found by its name. -/
@[simp]
theorem find?_push_self (r : Registry) (entry : Entry) :
    (r.push entry).find? entry.name = some entry := by
  simp [find?, push]

/-- Under another name nothing changes. -/
theorem find?_push_of_ne (r : Registry) {entry : Entry} {name : String} (h : name ≠ entry.name) :
    (r.push entry).find? name = r.find? name := by
  simp [find?, push, h.symm]

/-- The registry with one more template. The name is checked before the spec is compiled. -/
def add (r : Registry) (s : Settings) : Except RegistryError Registry :=
  if (r.find? s.name).isSome then .error (.duplicateName s.name)
  else
    match Template.compile s.request with
    | .ok template => .ok (r.push ⟨s.name, s.description, template⟩)
    | .error reason => .error (.notCompiled s.name reason)

/-- Adds templates in order; the first that cannot be added decides the error. -/
def addAll (r : Registry) : List Settings → Except RegistryError Registry
  | [] => .ok r
  | s :: rest =>
    match r.add s with
    | .ok next => next.addAll rest
    | .error error => .error error

/-- The registry of a list of settings. -/
def ofSettings (settings : List Settings) : Except RegistryError Registry :=
  (Registry.mk [] []).addAll settings

/-- The outgoing request of the named template for a context, if there is such a template. -/
def evaluate? (r : Registry) (name : String) (context : Json) : Option Json :=
  (r.template? name).map fun template => template.evaluate context

end Registry

end Remap
