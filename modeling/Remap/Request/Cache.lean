import Remap.Request.Template

set_option relaxedAutoImplicit false
set_option autoImplicit false

/-!
# Cache of compiled templates

The cache compiles every spec at most once between two clearings. Specs are told apart by their
compact text, so the order of members counts. A spec that does not compile leaves no trace. The
cache is asked for a text twice, before the spec is compiled and when the template is stored: what
is held under a text is never replaced.

## Main definitions

* `Remap.Request.Cache` — templates by the text of their spec.
* `Remap.Request.Cache.get`, `Remap.Request.Cache.clear` — its operations.
-/

namespace Remap.Request

/-- A template as the cache hands it out. -/
structure Shared where
  /-- Tells this compilation from all others of the same cache. -/
  identity : Nat
  template : Template

/-- Templates by the text of their spec. -/
structure Cache where
  entries : List (String × Shared)
  /-- The identity of the next compilation. -/
  next : Nat

namespace Cache

/-- The cache without entries that has compiled nothing yet. -/
def empty : Cache :=
  ⟨[], 0⟩

/-- The number of templates held. -/
def size (c : Cache) : Nat :=
  c.entries.length

/-- Whether no template is held. -/
def isEmpty (c : Cache) : Bool :=
  c.size = 0

/-- The template held for a text. -/
def find? (c : Cache) (key : String) : Option Shared :=
  c.entries.lookup key

/-- Stores a template under a text, unless one is held for it. This gives the template held for the
text from then on, and the cache afterwards. -/
def store (c : Cache) (key : String) (template : Template) : Shared × Cache :=
  match c.find? key with
  | some shared => (shared, ⟨c.entries, c.next + 1⟩)
  | none =>
    let shared : Shared := ⟨c.next, template⟩
    (shared, ⟨c.entries ++ [(key, shared)], c.next + 1⟩)

/-- The template of a spec, compiled if the cache does not hold it, and the cache afterwards. -/
def get (c : Cache) (spec : Json) : Except TemplateError Shared × Cache :=
  match c.find? spec.compact with
  | some shared => (.ok shared, c)
  | none =>
    match Template.compile spec with
    | .error error => (.error error, c)
    | .ok template =>
      let (shared, stored) := c.store spec.compact template
      (.ok shared, stored)

/-- Drops all templates. Identities are not used again. -/
def clear (c : Cache) : Cache :=
  ⟨[], c.next⟩

end Cache

end Remap.Request
