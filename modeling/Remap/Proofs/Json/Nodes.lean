import Remap.Json.Path

set_option relaxedAutoImplicit false
set_option autoImplicit false

/-!
# Nodes of a value

A value is a tree. Its nodes are reached by going from child to child, by the names of members and
the positions of items; the leaves are the nodes that are no containers. A list of nodes enumerates
the leaves if it holds just these and if each comes before the next in the document.

## Main definitions

* `Remap.Json.children` — the children of a value in order.
* `Remap.Json.NodeAt`, `Remap.Json.Before` — the nodes of a value, and their order.
* `Remap.Json.Enumerates` — the leaves of a value, each once and in order.

## Main results

* `Remap.Json.enumerates_scalar`, `Remap.Json.enumerates_flatMap_children` — how the leaves of a
  value are enumerated, by its kind.
-/

namespace Remap.Json

/-- The children of a value in order, each with its key. -/
def children : Json → List (Key × Json)
  | .object members => members.map fun member => (.field member.1, member.2)
  | .array items => items.mapIdx fun position item => (.index position, item)
  | _ => []

/-- Whether the value may have children. -/
def isContainer : Json → Bool
  | .array _ => true
  | .object _ => true
  | _ => false

/-- `NodeAt value keys node` says that going from child to child by the keys leads to the node. -/
inductive NodeAt : Json → List Key → Json → Prop
  | root (value : Json) : NodeAt value [] value
  | child {value child node : Json} {key : Key} {keys : List Key}
      (hchild : (key, child) ∈ value.children) (hnode : NodeAt child keys node) :
      NodeAt value (key :: keys) node

/-- `Before value keys others` says that the ways by the keys part at two children of one node of
the value, and that the first way takes the child that comes first. -/
inductive Before : Json → List Key → List Key → Prop
  | apart {value child child' : Json} {key other : Key}
      (h : [(key, child), (other, child')].Sublist value.children) (hne : key ≠ other)
      (keys others : List Key) : Before value (key :: keys) (other :: others)
  | inside {value child : Json} {key : Key} (hchild : (key, child) ∈ value.children)
      {keys others : List Key} (h : Before child keys others) :
      Before value (key :: keys) (key :: others)

/-- The nodes of a value that are no containers, with the keys that lead to them: each exactly once,
and in the order of the document. -/
structure Enumerates (value : Json) (nodes : List (List Key × Json)) : Prop where
  mem_iff : ∀ keys node, (keys, node) ∈ nodes ↔ NodeAt value keys node ∧ node.isContainer = false
  ordered : nodes.Pairwise fun x y => Before value x.1 y.1

/-- The children of an object have different keys if no name is repeated. -/
theorem pairwise_children_object {members : Members} (h : members.keys.Nodup) :
    (Json.object members).children.Pairwise fun x y => x.1 ≠ y.1 := by
  rw [children, List.pairwise_map]
  exact (List.pairwise_map.1 h).imp fun hne heq => hne (Key.field.inj heq)

/-- The children of an array have different keys. -/
theorem pairwise_children_array (items : List Json) :
    (Json.array items).children.Pairwise fun x y => x.1 ≠ y.1 := by
  rw [children, List.pairwise_iff_getElem]
  intro position other hposition hother hlt heq
  simp only [List.getElem_mapIdx, Key.index.injEq] at heq
  omega

/-- A scalar is the only node below it. -/
theorem enumerates_scalar {value : Json} (h : value.isContainer = false) :
    Enumerates value [([], value)] where
  mem_iff keys node := by
    have hchildren : value.children = [] := by cases value <;> simp_all [isContainer, children]
    rw [List.mem_singleton, Prod.mk.injEq]
    constructor
    · rintro ⟨rfl, rfl⟩
      exact ⟨.root node, h⟩
    · rintro ⟨_ | ⟨hchild, -⟩, -⟩
      · exact ⟨rfl, rfl⟩
      · simp [hchildren] at hchild
  ordered := List.pairwise_singleton _ _

/-- **The leaves of a container are those of its children**, one child after the other.

**Proof sketch.** A container is no leaf itself, so each leaf stands below exactly one key. Leaves
below one child keep the order they have in that child, with the key put before it; leaves below two
children are in the order of these children, whose keys differ. -/
theorem enumerates_flatMap_children {value : Json} (hcontainer : value.isContainer = true)
    (hkeys : value.children.Pairwise fun x y => x.1 ≠ y.1)
    (nodes : Json → List (List Key × Json))
    (h : ∀ child ∈ value.children, Enumerates child.2 (nodes child.2)) :
    Enumerates value (value.children.flatMap fun child =>
      (nodes child.2).map fun node => (child.1 :: node.1, node.2)) where
  mem_iff keys node := by
    simp only [List.mem_flatMap, List.mem_map]
    constructor
    · rintro ⟨⟨key, child⟩, hchild, ⟨below, found⟩, hfound, heq⟩
      obtain ⟨rfl, rfl⟩ := Prod.mk.inj heq
      obtain ⟨hnode, hscalar⟩ := ((h _ hchild).mem_iff _ _).1 hfound
      exact ⟨.child hchild hnode, hscalar⟩
    · rintro ⟨_ | ⟨hchild, hnode⟩, hscalar⟩
      · simp [hcontainer] at hscalar
      · exact ⟨_, hchild, _, ((h _ hchild).mem_iff _ _).2 ⟨hnode, hscalar⟩, rfl⟩
  ordered := by
    rw [List.pairwise_flatMap]
    constructor
    · rintro child hchild
      rw [List.pairwise_map]
      exact (h child hchild).ordered.imp fun hxy => .inside hchild hxy
    · -- Nodes below different children come in the order of these children.
      rw [List.pairwise_iff_forall_sublist] at hkeys ⊢
      intro first second hsublist x hx y hy
      obtain ⟨x, -, rfl⟩ := List.mem_map.1 hx
      obtain ⟨y, -, rfl⟩ := List.mem_map.1 hy
      exact .apart hsublist (hkeys hsublist) x.1 y.1

end Remap.Json
