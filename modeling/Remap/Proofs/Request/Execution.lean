import Remap.Proofs.Request.Denotation
import Remap.Proofs.Request.Place

set_option relaxedAutoImplicit false
set_option autoImplicit false

/-!
# Running writes along a tree

The assignments of a template are writes, each along its own path from the root of the request. All
writes below one step happen in the slot of that step, one after the other, as if the slot were a
request of its own. So what the writes of all leaves of a tree do can be said by recursion over the
tree, and it is what the tree denotes.

## Main definitions

* `Remap.Request.fill` — writing placed values one after the other into a slot.
* `Remap.Request.foundLeaves` — the leaves that have a value, each with its value.
* `Remap.Request.Fills` — writing all leaves of a tree leaves what it denotes.

## Main results

* `Remap.Request.fill_map_under_object`, `Remap.Request.fill_map_under_array` — the writes below one
  step happen in its slot.
* `Remap.Request.fills_of_wellFormed` — writing all leaves of a tree into an empty slot leaves what
  the tree denotes.
-/

namespace Remap.Request

open Target (writeAlong)

/-! ## Slots -/

/-- Writes placed values one after the other into a slot where a container of the given kind is to
be made. -/
def fill (container : Container) (placed : List Placed) (old : Json) : Json :=
  placed.foldl (fun slot p => writeAlong p.value container p.steps slot) old

@[simp]
theorem fill_nil (container : Container) (old : Json) : fill container [] old = old := rfl

theorem fill_cons (container : Container) (p : Placed) (rest : List Placed) (old : Json) :
    fill container (p :: rest) old =
      fill container rest (writeAlong p.value container p.steps old) := rfl

theorem fill_append (container : Container) (front back : List Placed) (old : Json) :
    fill container (front ++ back) old = fill container back (fill container front old) :=
  List.foldl_append

/-- A write into an object changes the member that its first step names. -/
theorem writeAlong_object (value : Json) (container : Container) (step : Step) (rest : List Step)
    (members : Members) :
    writeAlong value container (step :: rest) (.object members) =
      .object (members.update step.key.name (writeAlong value step.container rest)) := by
  simp [writeAlong, Json.isFalsy]

/-- A write into an array changes the item at the position of its first step. -/
theorem writeAlong_array (value : Json) (container : Container) {step : Step} {position : Nat}
    (hkey : step.key = .index position) (rest : List Step) (items : List Json) :
    writeAlong value container (step :: rest) (.array items) =
      .array (Json.updateItem items position (writeAlong value step.container rest)) := by
  simp [writeAlong, Json.isFalsy, hkey]

/-- The container of a kind is not falsy, although it is empty. -/
theorem Container.isFalsy_empty (container : Container) : container.empty.isFalsy = false := by
  cases container <;> rfl

/-- A write below a falsy slot makes the container first. -/
theorem writeAlong_of_isFalsy (value : Json) (container : Container) (step : Step)
    (rest : List Step) {old : Json} (h : old.isFalsy = true) :
    writeAlong value container (step :: rest) old =
      writeAlong value container (step :: rest) container.empty := by
  simp only [writeAlong, h, container.isFalsy_empty, if_true, Bool.false_eq_true, if_false]

/-- The writes below one step of an object happen in the member that the step names. -/
theorem fill_map_under_object (container : Container) (step : Step) {placed : List Placed}
    (hne : placed ≠ []) (members : Members) :
    fill container (placed.map (Placed.under step)) (.object members) =
      .object (members.update step.key.name (fill step.container placed)) := by
  induction placed generalizing members with
  | nil => exact absurd rfl hne
  | cons p rest ih =>
    rw [List.map_cons, fill_cons, Placed.steps_under, Placed.value_under, writeAlong_object]
    by_cases hrest : rest = []
    · subst hrest
      rfl
    · rw [ih hrest, Members.update_update]
      rfl

/-- The writes below one step of an array happen in the item at the position of the step. -/
theorem fill_map_under_array (container : Container) {step : Step} {position : Nat}
    (hkey : step.key = .index position) {placed : List Placed} (hne : placed ≠ [])
    (items : List Json) :
    fill container (placed.map (Placed.under step)) (.array items) =
      .array (Json.updateItem items position (fill step.container placed)) := by
  induction placed generalizing items with
  | nil => exact absurd rfl hne
  | cons p rest ih =>
    rw [List.map_cons, fill_cons, Placed.steps_under, Placed.value_under,
      writeAlong_array _ _ hkey]
    by_cases hrest : rest = []
    · subst hrest
      rfl
    · rw [ih hrest, Json.updateItem_updateItem]
      rfl

/-- Writes below an empty slot make the container first. -/
theorem fill_null (container : Container) {placed : List Placed} (hne : placed ≠ [])
    (hsteps : ∀ p ∈ placed, p.steps ≠ []) :
    fill container placed .null = fill container placed container.empty := by
  obtain ⟨p, rest, rfl⟩ := List.exists_cons_of_ne_nil hne
  obtain ⟨step, steps, hp⟩ := List.exists_cons_of_ne_nil (hsteps p List.mem_cons_self)
  rw [fill_cons, fill_cons, hp, writeAlong_of_isFalsy _ _ _ _ rfl]

/-! ## Leaves with a value -/

section Found

variable (leaf : Json → Option Json)

/-- The placed value of a placed leaf, if the leaf has a value. -/
def Placed.found? (p : Placed) : Option Placed :=
  (leaf p.value).map (Placed.mk p.steps)

/-- The leaves of a tree that have a value, each with its value. -/
def foundLeaves (value : Json) : List Placed :=
  (placedLeaves value).filterMap (Placed.found? leaf)

/-- The leaves of members that have a value. -/
def foundMembers (members : List (String × Json)) : List Placed :=
  (placedMembers members).filterMap (Placed.found? leaf)

/-- The leaves of items that have a value, the first item having the given position. -/
def foundItems (position : Nat) (items : List Json) : List Placed :=
  (placedItems position items).filterMap (Placed.found? leaf)

/-- Whether a leaf has a value does not depend on the steps to it. -/
theorem filterMap_found?_map_under (step : Step) (placed : List Placed) :
    (placed.map (Placed.under step)).filterMap (Placed.found? leaf) =
      (placed.filterMap (Placed.found? leaf)).map (Placed.under step) := by
  rw [List.filterMap_map, List.map_filterMap]
  apply List.filterMap_congr
  intro p _
  simp only [Function.comp_apply, Placed.found?, Placed.value_under, Option.map_map]
  rfl

theorem foundMembers_cons (name : String) (value : Json) (rest : List (String × Json)) :
    foundMembers leaf ((name, value) :: rest) =
      (foundLeaves leaf value).map (Placed.under (memberStep name value)) ++
        foundMembers leaf rest := by
  rw [foundMembers, placedMembers, List.filterMap_append, filterMap_found?_map_under]
  rfl

theorem foundItems_cons (position : Nat) (item : Json) (rest : List Json) :
    foundItems leaf position (item :: rest) =
      (foundLeaves leaf item).map (Placed.under (itemStep position item)) ++
        foundItems leaf (position + 1) rest := by
  rw [foundItems, placedItems, List.filterMap_append, filterMap_found?_map_under]
  rfl

/-- A tree that is a leaf itself is found at no steps. -/
theorem filterMap_found?_singleton (value : Json) :
    [(⟨[], value⟩ : Placed)].filterMap (Placed.found? leaf) =
      ((leaf value).map (Placed.mk [])).toList := by
  cases h : leaf value <;> simp [Placed.found?, h]

/-- A value below a member or an item is not found at the root. -/
theorem steps_ne_nil_of_mem_foundMembers {members : List (String × Json)} {p : Placed}
    (h : p ∈ foundMembers leaf members) : p.steps ≠ [] := by
  obtain ⟨q, hq, hp⟩ := List.mem_filterMap.1 h
  obtain ⟨found, -, rfl⟩ := Option.map_eq_some_iff.1 hp
  obtain ⟨name, value, -, q, -, rfl⟩ := mem_placedMembers.1 hq
  simp

theorem steps_ne_nil_of_mem_foundItems {position : Nat} {items : List Json} {p : Placed}
    (h : p ∈ foundItems leaf position items) : p.steps ≠ [] := by
  obtain ⟨q, hq, hp⟩ := List.mem_filterMap.1 h
  obtain ⟨found, -, rfl⟩ := Option.map_eq_some_iff.1 hp
  obtain ⟨offset, item, -, q, -, rfl⟩ := mem_placedItems.1 hq
  simp

mutual

/-- A tree denotes no value where none of its leaves has one. -/
theorem foundLeaves_eq_nil_iff : ∀ value : Json,
    foundLeaves leaf value = [] ↔ denote leaf value = none
  | .object members => by
    have hmembers := foundMembers_eq_nil_iff members
    rw [show foundLeaves leaf (.object members) = foundMembers leaf members from rfl, hmembers,
      denote_object_eq_none_iff]
  | .array items => by
    have hitems := foundItems_eq_nil_iff 0 items
    rw [show foundLeaves leaf (.array items) = foundItems leaf 0 items from rfl, hitems,
      denote_array_eq_none_iff]
  | .null => by
    rw [foundLeaves, placedLeaves, filterMap_found?_singleton, denote]
    simp
  | .bool value => by
    rw [foundLeaves, placedLeaves, filterMap_found?_singleton, denote]
    simp
  | .number value => by
    rw [foundLeaves, placedLeaves, filterMap_found?_singleton, denote]
    simp
  | .string value => by
    rw [foundLeaves, placedLeaves, filterMap_found?_singleton, denote]
    simp

/-- An object has no member with a value where no leaf of its members has one. -/
theorem foundMembers_eq_nil_iff : ∀ members : List (String × Json),
    foundMembers leaf members = [] ↔ denoteMembers leaf members = []
  | [] => by simp [foundMembers, placedMembers, denoteMembers]
  | (name, value) :: rest => by
    rw [foundMembers_cons, List.append_eq_nil_iff, List.map_eq_nil_iff,
      foundLeaves_eq_nil_iff value, foundMembers_eq_nil_iff rest, denoteMembers]
    cases denote leaf value <;> simp

/-- An array has no item with a value where no leaf of its items has one. -/
theorem foundItems_eq_nil_iff : ∀ (position : Nat) (items : List Json),
    foundItems leaf position items = [] ↔ denoteItems leaf items = []
  | _, [] => by simp [foundItems, placedItems, denoteItems]
  | position, item :: rest => by
    rw [foundItems_cons, List.append_eq_nil_iff, List.map_eq_nil_iff,
      foundLeaves_eq_nil_iff item, foundItems_eq_nil_iff (position + 1) rest, denoteItems]
    cases denote leaf item <;> cases denoteItems leaf rest <;> simp

end

/-- A tree that denotes a value has a leaf with one. -/
theorem foundLeaves_ne_nil {value found : Json} (h : denote leaf value = some found) :
    foundLeaves leaf value ≠ [] := fun hnil => by
  rw [(foundLeaves_eq_nil_iff leaf value).1 hnil] at h
  simp at h

/-! ## Trees -/

/-- `Fills leaf value` says that writing all leaves of the tree that have a value into an empty slot
leaves what the tree denotes, if it denotes anything. -/
def Fills (value : Json) : Prop :=
  ∀ found, denote leaf value = some found →
    fill (Container.ofSpec (some value)) (foundLeaves leaf value) .null = found

/-- Writing the members of an object one after the other appends those that have a value.

**Proof sketch.** Induction on the members. The writes below one of them happen in its slot, which
is empty when they start, since the names are distinct. -/
theorem fill_foundMembers (container : Container) {members : List (String × Json)}
    (hnames : (Members.keys members).Nodup) (hfills : ∀ member ∈ members, Fills leaf member.2)
    {old : Members} (hold : ∀ name ∈ Members.keys members, name ∉ old.keys) :
    fill container (foundMembers leaf members) (.object old) =
      .object (old ++ denoteMembers leaf members) := by
  induction members generalizing old with
  | nil => simp [foundMembers, placedMembers, denoteMembers]
  | cons member rest ih =>
    obtain ⟨name, value⟩ := member
    rw [Members.keys, List.map_cons, List.nodup_cons] at hnames
    rw [Members.keys, List.map_cons, List.forall_mem_cons] at hold
    rw [List.forall_mem_cons] at hfills
    rw [foundMembers_cons, fill_append, denoteMembers]
    cases hvalue : denote leaf value with
    | none =>
      rw [(foundLeaves_eq_nil_iff leaf value).2 hvalue, List.map_nil, fill_nil]
      exact ih hnames.2 hfills.2 hold.2
    | some found =>
      rw [fill_map_under_object container _ (foundLeaves_ne_nil leaf hvalue),
        show (memberStep name value).key.name = name from rfl, Members.update_of_not_mem hold.1,
        show fill (memberStep name value).container _ .null = found from hfills.1 found hvalue,
        ih hnames.2 hfills.2, List.append_assoc]
      · rfl
      · -- The name that has just been added is none of those that follow.
        intro other hother
        rw [Members.keys, List.map_append, List.mem_append, not_or]
        refine ⟨hold.2 other hother, ?_⟩
        rintro hmem
        obtain rfl := List.mem_singleton.1 hmem
        exact hnames.1 hother

/-- Writing the items of an array one after the other, the first at a position behind the end,
appends them up to the last one that has a value; nulls lead up to the first position.

**Proof sketch.** Induction on the items. Where one has a value, its slot is empty when its writes
start, since all earlier positions are smaller. Where it has none, the next one leaves a null in its
place. -/
theorem fill_foundItems (container : Container) {items : List Json}
    (hfills : ∀ item ∈ items, Fills leaf item) {position : Nat} {old : List Json}
    (hold : old.length ≤ position) :
    fill container (foundItems leaf position items) (.array old) =
      .array (if denoteItems leaf items = [] then old
        else old ++ List.replicate (position - old.length) .null ++ denoteItems leaf items) := by
  induction items generalizing position old with
  | nil => simp [foundItems, placedItems, denoteItems]
  | cons item rest ih =>
    rw [List.forall_mem_cons] at hfills
    rw [foundItems_cons, fill_append, denoteItems]
    cases hitem : denote leaf item with
    | none =>
      rw [(foundLeaves_eq_nil_iff leaf item).2 hitem, List.map_nil, fill_nil,
        ih hfills.2 (Nat.le_succ_of_le hold)]
      cases hrest : denoteItems leaf rest with
      | nil => simp
      | cons first others =>
        rw [Nat.succ_sub hold, List.replicate_succ']
        simp
    | some found =>
      have hlength :
          (old ++ List.replicate (position - old.length) Json.null ++ [found]).length =
            position + 1 := by
        simp only [List.length_append, List.length_replicate, List.length_singleton]
        omega
      rw [fill_map_under_array container rfl (foundLeaves_ne_nil leaf hitem),
        Json.updateItem_of_length_le hold,
        show fill (itemStep position item).container _ .null = found from hfills.1 found hitem,
        ih hfills.2 (Nat.le_of_eq hlength), hlength]
      cases hrest : denoteItems leaf rest <;> simp

/-- **Writing all leaves of a tree into an empty slot leaves what the tree denotes.**

**Proof sketch.** Induction on the tree. The first write makes the container, and from then on the
writes below one member or item happen in its slot (`fill_map_under_object`,
`fill_map_under_array`), which is empty when they start: the names of an object are distinct, and
the positions of an array are visited in increasing order. -/
theorem fills_of_wellFormed {value : Json} (hvalue : value.WellFormed) : Fills leaf value := by
  induction hvalue with
  | null | bool | number | string =>
    intro found hfound
    rw [denote] at hfound
    rw [foundLeaves, placedLeaves, filterMap_found?_singleton, hfound]
    rfl
  | @array items _ _ ih =>
    intro found hfound
    have hne : foundItems leaf 0 items ≠ [] := foundLeaves_ne_nil leaf hfound
    rw [show foundLeaves leaf (.array items) = foundItems leaf 0 items from rfl,
      fill_null _ hne fun p hp => steps_ne_nil_of_mem_foundItems leaf hp]
    refine (fill_foundItems leaf _ ih (Nat.zero_le 0)).trans ?_
    have hitems : denoteItems leaf items ≠ [] := fun hnil => by
      rw [(denote_array_eq_none_iff leaf).2 hnil] at hfound
      simp at hfound
    rw [if_neg hitems, eq_array_of_denote leaf hfound]
    rfl
  | @object members hnames _ ih =>
    intro found hfound
    have hne : foundMembers leaf members ≠ [] := foundLeaves_ne_nil leaf hfound
    rw [show foundLeaves leaf (.object members) = foundMembers leaf members from rfl,
      fill_null _ hne fun p hp => steps_ne_nil_of_mem_foundMembers leaf hp]
    refine (fill_foundMembers leaf _ hnames ih (by simp [Members.keys])).trans ?_
    rw [eq_object_of_denote leaf hfound]
    rfl

end Found

end Remap.Request
