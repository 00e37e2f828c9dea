import Remap.Request.Placeholder

set_option relaxedAutoImplicit false
set_option autoImplicit false

/-!
# Nodes and leaves of a spec

A spec is a tree of objects and arrays whose leaves are placeholders and literals.

## Main definitions

* `Remap.Request.Node` — what a value of a spec is taken for.
* `Remap.Request.leaves` — the leaves of a spec in document order, each with the names and decimal
  positions that lead to it.
-/

namespace Remap.Request

/-- What a value of a spec is taken for. -/
inductive Node where
  | object (members : Members)
  | array (items : List Json)
  | placeholder (token : String)
  | literal (value : Json)

/-- The node that a value is. -/
def Node.ofJson : Json → Node
  | .object members => .object members
  | .array items => .array items
  | .string text => if isPlaceholder text then .placeholder text else .literal (.string text)
  | other => .literal other

/-- A leaf of a spec. -/
structure Leaf where
  /-- The names and decimal positions that lead to the leaf. -/
  path : List String
  value : Json

/-- The leaf with one more segment before its path. -/
def Leaf.under (segment : String) (leaf : Leaf) : Leaf :=
  { leaf with path := segment :: leaf.path }

mutual

/-- The leaves of a value in document order. Containers without leaves leave nothing. -/
def leaves : Json → List Leaf
  | .object members => memberLeaves members
  | .array items => itemLeaves 0 items
  | .null => [⟨[], .null⟩]
  | .bool value => [⟨[], .bool value⟩]
  | .number value => [⟨[], .number value⟩]
  | .string value => [⟨[], .string value⟩]

/-- The leaves of the members of an object. -/
def memberLeaves : List (String × Json) → List Leaf
  | [] => []
  | (name, value) :: rest => (leaves value).map (Leaf.under name) ++ memberLeaves rest

/-- The leaves of the items of an array, the first of which has the given position. -/
def itemLeaves (position : Nat) : List Json → List Leaf
  | [] => []
  | item :: rest =>
    (leaves item).map (Leaf.under (Text.decimal position)) ++ itemLeaves (position + 1) rest

end

end Remap.Request
