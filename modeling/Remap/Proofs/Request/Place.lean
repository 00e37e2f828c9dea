import Mathlib.Data.List.Basic
import Remap.Proofs.Json.WellFormed
import Remap.Request.Node
import Remap.Request.Target

set_option relaxedAutoImplicit false
set_option autoImplicit false

/-!
# Places of leaves

The walk through a spec hands out the names and decimal positions that lead to a leaf; the target of
the leaf is found again by following these names through the spec. In a well-formed spec this always
arrives: the target has one step for each container above the leaf, a position for an array and a
name for an object, and each step knows the kind of the container below it. The only thing that can
be wrong with the path of a leaf is an empty name.

## Main definitions

* `Remap.Request.Placed` — a value with the steps that lead to its place.
* `Remap.Request.placedLeaves` — the leaves of a value with their steps.

## Main results

* `Remap.Request.leaves_eq_map_placedLeaves` — these are the leaves that the walk hands out.
* `Remap.Request.stepsOf_names` — following the names of a leaf through the spec gives its steps.
* `Remap.Request.ofSegments_names` — the target of a leaf of a part.
-/

namespace Remap.Request

/-- A value with the steps that lead to its place. -/
structure Placed where
  steps : List Step
  value : Json

namespace Placed

/-- The value one step further down. -/
def under (step : Step) (p : Placed) : Placed :=
  { p with steps := step :: p.steps }

/-- The names and decimal positions that lead to the place. -/
def names (p : Placed) : List String :=
  p.steps.map fun step => step.key.name

/-- The leaf without the kinds of its containers. -/
def leaf (p : Placed) : Leaf :=
  ⟨p.names, p.value⟩

@[simp]
theorem names_under (step : Step) (p : Placed) :
    (p.under step).names = step.key.name :: p.names := rfl

@[simp]
theorem value_under (step : Step) (p : Placed) : (p.under step).value = p.value := rfl

@[simp]
theorem steps_under (step : Step) (p : Placed) : (p.under step).steps = step :: p.steps := rfl

end Placed

/-- The step to a member of an object of a spec. -/
def memberStep (name : String) (value : Json) : Step :=
  ⟨.field name, Container.ofSpec (some value)⟩

/-- The step to an item of an array of a spec. -/
def itemStep (position : Nat) (item : Json) : Step :=
  ⟨.index position, Container.ofSpec (some item)⟩

mutual

/-- The leaves of a value in document order, with the steps that lead to them. -/
def placedLeaves : Json → List Placed
  | .object members => placedMembers members
  | .array items => placedItems 0 items
  | .null => [⟨[], .null⟩]
  | .bool value => [⟨[], .bool value⟩]
  | .number value => [⟨[], .number value⟩]
  | .string value => [⟨[], .string value⟩]

/-- The leaves of the members of an object. -/
def placedMembers : List (String × Json) → List Placed
  | [] => []
  | (name, value) :: rest =>
    (placedLeaves value).map (Placed.under (memberStep name value)) ++ placedMembers rest

/-- The leaves of the items of an array, the first of which has the given position. -/
def placedItems (position : Nat) : List Json → List Placed
  | [] => []
  | item :: rest =>
    (placedLeaves item).map (Placed.under (itemStep position item)) ++
      placedItems (position + 1) rest

end

/-! ## The leaves of the walk -/

mutual

/-- The walk hands out the leaves with their names, in the same order. -/
theorem leaves_eq_map_placedLeaves : ∀ value : Json,
    leaves value = (placedLeaves value).map Placed.leaf
  | .object members => by
    rw [leaves, placedLeaves, memberLeaves_eq_map_placedMembers members]
  | .array items => by
    rw [leaves, placedLeaves, itemLeaves_eq_map_placedItems 0 items]
  | .null => rfl
  | .bool _ => rfl
  | .number _ => rfl
  | .string _ => rfl

/-- The walk through members hands out their leaves with their names. -/
theorem memberLeaves_eq_map_placedMembers : ∀ members : List (String × Json),
    memberLeaves members = (placedMembers members).map Placed.leaf
  | [] => rfl
  | (name, value) :: rest => by
    rw [memberLeaves, placedMembers, leaves_eq_map_placedLeaves value,
      memberLeaves_eq_map_placedMembers rest, List.map_append, List.map_map, List.map_map]
    rfl

/-- The walk through items hands out their leaves with their names. -/
theorem itemLeaves_eq_map_placedItems : ∀ (position : Nat) (items : List Json),
    itemLeaves position items = (placedItems position items).map Placed.leaf
  | _, [] => rfl
  | position, item :: rest => by
    rw [itemLeaves, placedItems, leaves_eq_map_placedLeaves item,
      itemLeaves_eq_map_placedItems (position + 1) rest, List.map_append, List.map_map,
      List.map_map]
    rfl

end

/-- A leaf of the members is a leaf of one of them. -/
theorem mem_placedMembers {members : List (String × Json)} {p : Placed} :
    p ∈ placedMembers members ↔
      ∃ name value, (name, value) ∈ members ∧
        ∃ q ∈ placedLeaves value, p = q.under (memberStep name value) := by
  induction members with
  | nil => simp [placedMembers]
  | cons member rest ih =>
    obtain ⟨name, value⟩ := member
    rw [placedMembers, List.mem_append, ih, List.mem_map]
    constructor
    · rintro (⟨q, hq, rfl⟩ | ⟨name', value', hmem, h⟩)
      · exact ⟨name, value, List.mem_cons_self, q, hq, rfl⟩
      · exact ⟨name', value', List.mem_cons_of_mem _ hmem, h⟩
    · rintro ⟨name', value', hmem, q, hq, rfl⟩
      rcases List.mem_cons.1 hmem with heq | hmem
      · obtain ⟨rfl, rfl⟩ := Prod.mk.inj heq
        left; exact ⟨q, hq, rfl⟩
      · right; exact ⟨name', value', hmem, q, hq, rfl⟩

/-- A leaf of the items is a leaf of one of them. -/
theorem mem_placedItems {items : List Json} {start : Nat} {p : Placed} :
    p ∈ placedItems start items ↔
      ∃ position item, items[position]? = some item ∧
        ∃ q ∈ placedLeaves item, p = q.under (itemStep (start + position) item) := by
  induction items generalizing start with
  | nil => simp [placedItems]
  | cons first rest ih =>
    rw [placedItems, List.mem_append, ih, List.mem_map]
    constructor
    · rintro (⟨q, hq, rfl⟩ | ⟨position, item, hitem, q, hq, rfl⟩)
      · exact ⟨0, first, rfl, q, hq, rfl⟩
      · refine ⟨position + 1, item, hitem, q, hq, ?_⟩
        rw [show start + (position + 1) = start + 1 + position by omega]
    · rintro ⟨position, item, hitem, q, hq, rfl⟩
      cases position with
      | zero =>
        obtain rfl := Option.some.inj hitem
        left; exact ⟨q, hq, rfl⟩
      | succ position =>
        right
        refine ⟨position, item, hitem, q, hq, ?_⟩
        rw [show start + 1 + position = start + (position + 1) by omega]

/-! ## Following names through the spec -/

/-- Following a name into an object of the spec takes the step to the member. -/
theorem stepsOf_member {members : Members} {name : String} {value : Json}
    (hvalue : members.get? name = some value) (names : List String) :
    Target.stepsOf (some (.object members)) (name :: names) =
      if name = "" then .error .emptySegment
      else (Target.stepsOf (some value) names).map (memberStep name value :: ·) := by
  by_cases hname : name = ""
  · simp only [Target.stepsOf, Target.keyOf, if_pos hname]
  · have hchild : (Json.object members).at? (.field name) = some value := hvalue
    simp only [Target.stepsOf, Target.keyOf, if_neg hname, Option.bind_some, hchild, memberStep]

/-- Following a decimal position into an array of the spec takes the step to the item. -/
theorem stepsOf_item {items : List Json} {position : Nat} {item : Json}
    (hlength : items.length ≤ UInt64.size) (hitem : items[position]? = some item)
    (names : List String) :
    Target.stepsOf (some (.array items)) (Text.decimal position :: names) =
      (Target.stepsOf (some item) names).map (itemStep position item :: ·) := by
  obtain ⟨hlt, -⟩ := List.getElem?_eq_some_iff.1 hitem
  obtain ⟨index, hindex, htoNat⟩ := Text.exists_index?_decimal (Nat.lt_of_lt_of_le hlt hlength)
  have hchild : (Json.array items).at? (.index position) = some item := hitem
  rw [Target.stepsOf, Target.keyOf]
  simp only [if_neg (Text.decimal_ne_empty position), hindex, htoNat, if_pos hlt, Option.bind_some,
    hchild, itemStep]

/-- **Following the names of a leaf through a well-formed spec gives the steps of the leaf**, unless
one of the names is empty.

**Proof sketch.** Induction on the spec. A leaf of an object lies in the member that looking up its
name finds, since no name is repeated. A leaf of an array lies in the item whose position the
decimal digits read as, since the positions are 64-bit words. -/
theorem stepsOf_names {spec : Json} (hspec : spec.WellFormed) :
    ∀ p ∈ placedLeaves spec, Target.stepsOf (some spec) p.names =
      if "" ∈ p.names then .error .emptySegment else .ok p.steps := by
  induction hspec with
  | null | bool | number | string =>
    intro p hp
    obtain rfl := List.mem_singleton.1 hp
    rfl
  | array hlength _ ih =>
    rintro p hp
    obtain ⟨position, item, hitem, q, hq, rfl⟩ := mem_placedItems.1 hp
    have hq' := ih item (List.mem_of_getElem? hitem) q hq
    rw [Nat.zero_add, Placed.names_under]
    rw [show (itemStep position item).key.name = Text.decimal position from rfl,
      stepsOf_item hlength hitem, hq']
    have hmem : "" ∈ Text.decimal position :: q.names ↔ "" ∈ q.names := by
      simp [(Text.decimal_ne_empty position).symm]
    by_cases hempty : "" ∈ q.names
    · rw [if_pos hempty, if_pos (hmem.2 hempty)]
      rfl
    · rw [if_neg hempty, if_neg (mt hmem.1 hempty)]
      rfl
  | object hnames _ ih =>
    rintro p hp
    obtain ⟨name, value, hmember, q, hq, rfl⟩ := mem_placedMembers.1 hp
    have hq' := ih (name, value) hmember q hq
    rw [Placed.names_under, show (memberStep name value).key.name = name from rfl,
      stepsOf_member ((Members.get?_eq_some_iff hnames).2 hmember), hq']
    have hmem : "" ∈ name :: q.names ↔ name = "" ∨ "" ∈ q.names := by
      rw [List.mem_cons, eq_comm]
    by_cases hname : name = ""
    · rw [if_pos hname, if_pos (hmem.2 (Or.inl hname))]
    · by_cases hempty : "" ∈ q.names
      · rw [if_neg hname, if_pos hempty, if_pos (hmem.2 (Or.inr hempty))]
        rfl
      · rw [if_neg hname, if_neg hempty, if_neg (mt hmem.1 (not_or.2 ⟨hname, hempty⟩))]
        rfl

/-! ## Targets of parts and leaves -/

/-- The names of a leaf, that of its part first, form a target with the steps of the leaf unless one
of them is empty. -/
theorem ofSegments_names {parts : Members} (hspec : (Json.object parts).WellFormed) {part : String}
    {value : Json} (hpart : (part, value) ∈ parts) {p : Placed} (hp : p ∈ placedLeaves value) :
    Target.ofSegments (part :: p.names) (.object parts) =
      if "" ∈ part :: p.names then
        .error (.invalidPath (Text.dotted (part :: p.names)) .emptySegment)
      else .ok ⟨Text.dotted (part :: p.names), memberStep part value :: p.steps⟩ := by
  have hsteps := stepsOf_names hspec (p.under (memberStep part value))
    (mem_placedMembers.2 ⟨part, value, hpart, p, hp, rfl⟩)
  rw [Placed.names_under, show (memberStep part value).key.name = part from rfl,
    Placed.steps_under] at hsteps
  simp only [Target.ofSegments, hsteps]
  by_cases hempty : "" ∈ part :: p.names
  · simp only [if_pos hempty]
  · simp only [if_neg hempty]

/-- The name of a part alone is a target unless it is empty. -/
theorem ofSegments_part {parts : Members} (hspec : (Json.object parts).WellFormed) {part : String}
    {value : Json} (hpart : (part, value) ∈ parts) (hname : part ≠ "") :
    Target.ofSegments [part] (.object parts) =
      .ok ⟨Text.dotted [part], [memberStep part value]⟩ := by
  have hvalue := (Members.get?_eq_some_iff (Json.wellFormed_object_iff.1 hspec).1).2 hpart
  have hsteps : Target.stepsOf (some (.object parts)) [part] = .ok [memberStep part value] := by
    rw [stepsOf_member hvalue, if_neg hname]
    rfl
  simp only [Target.ofSegments, hsteps]

end Remap.Request
