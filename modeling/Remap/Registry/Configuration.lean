import Remap.Registry.Basic
import Remap.Yaml.Schema

set_option relaxedAutoImplicit false
set_option autoImplicit false

/-!
# Configurations in YAML

A configuration is a sequence of mappings, each with the settings of one template. Names and
descriptions are taken as written, whatever their scalars stand for. An alias stands for the node
that it refers to; how often aliases are followed is bounded by the size of the document, and how
deep containers may be inside each other by `Remap.Configuration.depthLimit`.

## Main definitions

* `Remap.Configuration.json` — the JSON value of a node.
* `Remap.Configuration.settings?` — the settings of a text.
* `Remap.Registry.ofYaml` — the registry of a text.
-/

namespace Remap

namespace Configuration

open Remap.Yaml (Node Document)

/-- How many containers may be inside each other. -/
def depthLimit : Nat :=
  128

/-- How often, for each event of the document, an alias may be followed. -/
def aliasLimit : Nat :=
  100

/-- Reading that counts how often aliases were followed, and that may fail. -/
abbrev Reading := StateT Nat Option

/-- The node that an alias stands for; any other node stands for itself. -/
def resolve (d : Document) (node : Node) : Reading Node :=
  match node with
  | .alias number => do
    let followed ← get
    if followed < d.size * aliasLimit then
      set (followed + 1)
      liftM (d.anchored? number)
    else failure
  | other => return other

/-- The text of a scalar, whatever it stands for. -/
def text (d : Document) (node : Node) : Reading String := do
  match ← resolve d node with
  | .scalar _ _ text => return text
  | _ => failure

/-- The text of a scalar, or none where a plain scalar stands for null. -/
def optionalText (d : Document) (node : Node) : Reading (Option String) := do
  match ← resolve d node with
  | .scalar tag plain text =>
    if !plain then return some text
    else
      match tag with
      | none => return if text = "" || Yaml.isNull text then none else some text
      | some tag =>
        if tag = Yaml.Tag.core "null" then
          if Yaml.isNull text then return none else failure
        else return some text
  | _ => failure

/-- The JSON value of a node with at most `depth` containers inside each other. The keys of a
mapping are taken as written; of equal keys the last value is kept. -/
def json (d : Document) (depth : Nat) (node : Node) : Reading Json := do
  match ← resolve d node with
  | .alias _ => failure
  | .scalar tag plain text => liftM (Yaml.ofScalar? tag plain text)
  | .sequence tag items =>
    match depth with
    | 0 => failure
    | depth + 1 =>
      if Yaml.namesType tag then failure
      else return .array (← items.mapM (json d depth))
  | .mapping tag entries =>
    match depth with
    | 0 => failure
    | depth + 1 =>
      if Yaml.namesType tag then failure
      else
        let members ← entries.mapM fun (key, value) => do
          return (← text d key, ← json d depth value)
        return Json.ofMembers members

/-- The fields of settings met so far. -/
structure Fields where
  name : Option String
  description : Option (Option String)
  request : Option Json

/-- Reads one field of settings. Unknown fields are passed over; no field may be given twice. -/
def field (d : Document) (fields : Fields) (entry : Node × Node) : Reading Fields := do
  let key ← text d entry.1
  if key = "name" then
    if fields.name.isSome then failure
    else return { fields with name := some (← text d entry.2) }
  else if key = "description" then
    if fields.description.isSome then failure
    else return { fields with description := some (← optionalText d entry.2) }
  else if key = "request" then
    if fields.request.isSome then failure
    else return { fields with request := some (← json d (depthLimit - 2) entry.2) }
  else return fields

/-- The settings of a mapping. -/
def settings (d : Document) (node : Node) : Reading Settings := do
  match ← resolve d node with
  | .mapping _ entries =>
    let fields ← entries.foldlM (field d) ⟨none, none, none⟩
    match fields.name, fields.request with
    | some name, some request => return ⟨name, fields.description.join, request⟩
    | _, _ => failure
  | _ => failure

/-- The settings of a document. A document without content has none. -/
def ofDocument (d : Document) : Reading (List Settings) :=
  match d.root with
  | none => return []
  | some (.scalar _ true "") => return []
  | some (.sequence _ items) => items.mapM (settings d)
  | some _ => failure

/-- The settings of a YAML text; `none` if it is not YAML or no list of settings. -/
def settings? (yaml : String) : Option (List Settings) :=
  (Document.ofText? yaml).bind fun d => ((ofDocument d).run 0).map Prod.fst

end Configuration

/-- The registry of a YAML text. -/
def Registry.ofYaml (yaml : String) : Except RegistryError Registry :=
  match Configuration.settings? yaml with
  | some settings => ofSettings settings
  | none => .error .invalidConfiguration

end Remap
