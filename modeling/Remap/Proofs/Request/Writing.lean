import Mathlib.Data.List.Perm.Basic
import Remap.Proofs.Json.Alike
import Remap.Proofs.Request.Execution

set_option relaxedAutoImplicit false
set_option autoImplicit false

/-!
# Writes at different places

Two writes whose paths part at some step do not touch each other, whatever stands in the request:
up to the order of members it does not matter which of them comes first. They share the containers
above the place where they part, which the first of them may have to make; both make the same ones,
since up to there they take the same steps. What is in the way of one of them above that place is in
the way of both. Hence a list of writes whose paths part from each other can be run in any order.

## Main definitions

* `Remap.Request.Blocks` — what a key does not lead into.
* `Remap.Json.Key.Apart`, `Remap.Request.Diverge` — keys to different places in one container, and
  paths that part at such keys.

## Main results

* `Remap.Request.writeAlong_cases`, `Remap.Request.at?_writeAlong_cases` — everything that a step of
  a write can do to the slot and to its children.
* `Remap.Request.writeAlong_sameContent` — a write respects the content of the slot.
* `Remap.Request.writeAlong_comm` — two writes along paths that part commute, and the values are
  alike.
* `Remap.Request.fill_perm` — writes along paths that part can be run in any order.
-/

namespace Remap

/-- Keys to different members of an object, or to different items of an array. -/
inductive Json.Key.Apart : Json.Key → Json.Key → Prop
  | field {name other : String} (h : name ≠ other) : Apart (.field name) (.field other)
  | index {position other : Nat} (h : position ≠ other) : Apart (.index position) (.index other)

/-- Being apart does not depend on the order of the keys. -/
theorem Json.Key.Apart.symm {key other : Json.Key} (h : key.Apart other) : other.Apart key := by
  cases h with
  | field h => exact .field (Ne.symm h)
  | index h => exact .index (Ne.symm h)

/-- Keys that are apart stand for different names in an object, too. -/
theorem Json.Key.Apart.name_ne {key other : Json.Key} (h : key.Apart other) :
    key.name ≠ other.name := by
  cases h with
  | field h => exact h
  | index h => exact fun heq => h (Text.decimal_injective heq)

namespace Request

open Json (Alike Key SameContent)
open Target (writeAlong)

/-! ## One step of a write -/

/-- `Blocks value key` says that the key leads nowhere from the value, and that the value is not
falsy: it is a scalar, or an array while the key is a name. -/
inductive Blocks : Json → Key → Prop
  | bool (key : Key) : Blocks (.bool true) key
  | number {value : Json.Number} (h : value.isZero = false) (key : Key) : Blocks (.number value) key
  | string {text : String} (h : text ≠ "") (key : Key) : Blocks (.string text) key
  | array (items : List Json) (name : String) : Blocks (.array items) (.field name)

/-- What is in the way is not falsy. -/
theorem Blocks.isFalsy_eq {value : Json} {key : Key} (h : Blocks value key) :
    value.isFalsy = false := by
  cases h with
  | bool | array => rfl
  | number h => exact h
  | string h => simpa [Json.isFalsy] using h

/-- Nothing is behind what is in the way. -/
theorem Blocks.at?_eq_none {value : Json} {key : Key} (h : Blocks value key) :
    value.at? key = none := by
  cases h <;> rfl

/-- An array is in the way of the names. -/
theorem blocks_array_iff {items : List Json} {key : Key} :
    Blocks (.array items) key ↔ ∃ name, key = .field name := by
  constructor
  · rintro (_ | _ | _ | ⟨-, name⟩)
    exact ⟨name, rfl⟩
  · rintro ⟨name, rfl⟩
    exact .array items name

/-- An object is in no way. -/
theorem not_blocks_object (members : Members) (key : Key) : ¬Blocks (.object members) key := by
  rintro ⟨⟩

/-- What is in the way of a key is in the way of the keys apart from it. -/
theorem Blocks.of_apart {value : Json} {key other : Key} (h : Blocks value key)
    (hapart : key.Apart other) : Blocks value other := by
  cases h with
  | bool => exact .bool other
  | number h => exact .number h other
  | string h => exact .string h other
  | array items name =>
    cases hapart with
    | field => exact .array items _

/-- Whether a value is in the way is a matter of its content. -/
theorem Blocks.of_sameContent {value other : Json} {key : Key} (h : Blocks value key)
    (hsame : value.SameContent other) : Blocks other key := by
  cases h with
  | bool =>
    cases hsame
    exact .bool key
  | number h =>
    cases hsame with
    | number hvalue => exact .number (hvalue.isZero_eq.symm.trans h) key
  | string h =>
    cases hsame
    exact .string h key
  | array items name =>
    cases hsame
    exact .array _ name

/-- What is not falsy can be entered at a key or is in its way. -/
theorem object_or_array_or_blocks {value : Json} (h : value.isFalsy = false) (key : Key) :
    (∃ members, value = .object members) ∨
      (∃ items position, value = .array items ∧ key = .index position) ∨ Blocks value key := by
  cases value with
  | null => simp [Json.isFalsy] at h
  | bool value =>
    obtain rfl : value = true := by simpa [Json.isFalsy] using h
    exact .inr (.inr (.bool key))
  | number value => exact .inr (.inr (.number h key))
  | string text => exact .inr (.inr (.string (by simpa [Json.isFalsy] using h) key))
  | array items =>
    cases key with
    | field name => exact .inr (.inr (.array items name))
    | index position => exact .inr (.inl ⟨items, position, rfl, rfl⟩)
  | object members => exact .inl ⟨members, rfl⟩

/-- A write stops at what is in its way. -/
theorem writeAlong_of_blocks (value : Json) (container : Container) {step : Step}
    (rest : List Step) {old : Json} (h : Blocks old step.key) :
    writeAlong value container (step :: rest) old = old := by
  obtain ⟨key, below⟩ := step
  cases h with
  | bool => rfl
  | number h => simp [writeAlong, Json.isFalsy, h]
  | string h => simp [writeAlong, Json.isFalsy, h]
  | array => rfl

/-- The slot with a container in it where it was falsy. -/
def opened (container : Container) (old : Json) : Json :=
  if old.isFalsy then container.empty else old

/-- A falsy slot is opened by an empty container. -/
theorem opened_of_isFalsy (container : Container) {old : Json} (h : old.isFalsy = true) :
    opened container old = container.empty :=
  if_pos h

/-- A slot that is not falsy is open. -/
theorem opened_eq_self (container : Container) {old : Json} (h : old.isFalsy = false) :
    opened container old = old :=
  if_neg (by simp [h])

/-- Whatever was falsy is a container in the opened slot. -/
theorem isFalsy_opened (container : Container) (old : Json) :
    (opened container old).isFalsy = false := by
  cases hfalsy : old.isFalsy with
  | true => rw [opened_of_isFalsy container hfalsy, container.isFalsy_empty]
  | false => rw [opened_eq_self container hfalsy, hfalsy]

/-- An empty container holds nothing. -/
theorem Container.at?_empty (container : Container) (key : Key) :
    container.empty.at? key = none := by
  cases container <;> cases key <;> rfl

/-- The opened slot holds what the slot held. -/
theorem at?_opened (container : Container) (old : Json) (key : Key) :
    (opened container old).at? key = old.at? key := by
  cases hfalsy : old.isFalsy with
  | true =>
    rw [opened_of_isFalsy container hfalsy, container.at?_empty,
      Json.at?_eq_none_of_isFalsy hfalsy]
  | false => rw [opened_eq_self container hfalsy]

/-- A write opens the slot first. -/
theorem writeAlong_opened (value : Json) (container : Container) (step : Step) (rest : List Step)
    (old : Json) :
    writeAlong value container (step :: rest) (opened container old) =
      writeAlong value container (step :: rest) old := by
  cases hfalsy : old.isFalsy with
  | true =>
    rw [opened_of_isFalsy container hfalsy, writeAlong_of_isFalsy value container step rest hfalsy]
  | false => rw [opened_eq_self container hfalsy]

/-- **Everything that a step of a write can do.** In the opened slot it updates a member of an
object or changes an item of an array, or it leaves what is in its way. -/
theorem writeAlong_cases (value : Json) (container : Container) (step : Step) (rest : List Step)
    (old : Json) :
    (∃ members : Members, opened container old = .object members ∧
      writeAlong value container (step :: rest) old =
        .object (members.update step.key.name (writeAlong value step.container rest))) ∨
    (∃ items position, opened container old = .array items ∧ step.key = .index position ∧
      writeAlong value container (step :: rest) old =
        .array (Json.updateItem items position (writeAlong value step.container rest))) ∨
    (Blocks (opened container old) step.key ∧
      writeAlong value container (step :: rest) old = opened container old) := by
  rw [← writeAlong_opened]
  have hfalsy := isFalsy_opened container old
  generalize opened container old = slot at hfalsy
  rcases object_or_array_or_blocks hfalsy step.key with
    ⟨members, rfl⟩ | ⟨items, position, rfl, hkey⟩ | hblocks
  · left; exact ⟨members, rfl, writeAlong_object _ _ _ _ _⟩
  · right; left; exact ⟨items, position, rfl, hkey, writeAlong_array _ _ hkey _ _⟩
  · right; right; exact ⟨hblocks, writeAlong_of_blocks _ _ _ hblocks⟩

/-- A step that leaves its child as it is leaves the slot as it is: the update of the member or the
item puts back the child that was there. -/
theorem writeAlong_eq_self_of_at? {value : Json} (container : Container) {step : Step}
    {rest : List Step} {old child : Json} (hchild : old.at? step.key = some child)
    (hchange : writeAlong value step.container rest child = child) :
    writeAlong value container (step :: rest) old = old := by
  cases old with
  | object members => rw [writeAlong_object, Members.update_eq_self hchild hchange]
  | array items =>
    generalize hkey : step.key = key at hchild
    cases key with
    | field name => simp [Json.at?] at hchild
    | index position => rw [writeAlong_array _ _ hkey, Json.updateItem_eq_self hchild hchange]
  | _ => simp [Json.at?] at hchild

/-- A write leaves in the way what is in the way in the opened slot. -/
theorem blocks_writeAlong_iff (value : Json) (container : Container) (step : Step)
    (rest : List Step) (old : Json) (key : Key) :
    Blocks (writeAlong value container (step :: rest) old) key ↔
      Blocks (opened container old) key := by
  rcases writeAlong_cases value container step rest old with
    ⟨members, hslot, hafter⟩ | ⟨items, position, hslot, -, hafter⟩ | ⟨-, hafter⟩
  · rw [hafter, hslot]
    exact iff_of_false (not_blocks_object _ key) (not_blocks_object _ key)
  · rw [hafter, hslot, blocks_array_iff, blocks_array_iff]
  · rw [hafter]

/-- **Everything that a step of a write can do to a child of the slot.** The child at its key, under
whatever spelling of its name, becomes what the further steps make of it; a missing item before the
position of its key becomes null; any other child stays.

**Proof sketch.** By what the step does (`writeAlong_cases`). In an object the names decide. In an
array the positions do, and a position before that of the step is one that was there or a new
one. -/
theorem at?_writeAlong_cases (value : Json) (container : Container) (step : Step)
    (rest : List Step) (old : Json) (key : Key) :
    (key.name = step.key.name ∧
      (writeAlong value container (step :: rest) old).at? key =
        some (writeAlong value step.container rest ((old.at? key).getD .null))) ∨
    (writeAlong value container (step :: rest) old).at? key = old.at? key ∨
    (old.at? key = none ∧
      (writeAlong value container (step :: rest) old).at? key = some .null ∧
      ∃ index wanted items, step.key = .index index ∧ key = .index wanted ∧ wanted < index ∧
        writeAlong value container (step :: rest) old = .array items) := by
  rw [← at?_opened container old]
  rcases writeAlong_cases value container step rest old with
    ⟨members, hslot, hafter⟩ | ⟨items, index, hslot, hkey, hafter⟩ | ⟨-, hafter⟩
  · rw [hafter, hslot]
    by_cases hname : key.name = step.key.name
    · left
      refine ⟨hname, ?_⟩
      simp only [Json.at?, hname]
      exact Members.get?_update_self _ _ _
    · right; left
      exact Members.get?_update_of_ne _ _ hname
  · rw [hafter, hslot]
    cases key with
    | field name => right; left; rfl
    | index wanted =>
      by_cases hwanted : wanted = index
      · left
        subst hwanted
        exact ⟨by rw [hkey], Json.getElem?_updateItem_self _ _ _⟩
      · right
        have hitem := Json.getElem?_updateItem_of_ne items
          (writeAlong value step.container rest) hwanted
        by_cases hlt : wanted < index
        · rw [if_pos hlt] at hitem
          cases hold : items[wanted]? with
          | some item =>
            left
            rw [hold] at hitem
            exact hitem.trans hold.symm
          | none =>
            right
            rw [hold] at hitem
            exact ⟨hold, hitem, index, wanted, _, hkey, rfl, hlt, rfl⟩
        · rw [if_neg hlt] at hitem
          left; exact hitem
  · right; left
    rw [hafter]

/-- Slots with the same content have it when they are opened, too. -/
theorem opened_sameContent {x y : Json} (h : x.SameContent y) (container : Container) :
    (opened container x).SameContent (opened container y) := by
  cases hfalsy : y.isFalsy with
  | true =>
    rw [opened_of_isFalsy container (h.isFalsy_eq.trans hfalsy), opened_of_isFalsy container hfalsy]
    exact .refl _
  | false =>
    rw [opened_eq_self container (h.isFalsy_eq.trans hfalsy), opened_eq_self container hfalsy]
    exact h

/-- **A write respects the content of the slot**: slots with the same content before it have the
same content afterwards.

**Proof sketch.** Induction on the path. Opened slots with the same content are both objects or both
arrays, and the step changes the same child in both; or the same is in its way. -/
theorem writeAlong_sameContent (value : Json) (path : List Step) (container : Container)
    {x y : Json} (h : x.SameContent y) :
    (writeAlong value container path x).SameContent (writeAlong value container path y) := by
  induction path generalizing container x y with
  | nil => exact .refl value
  | cons step rest ih =>
    rw [← writeAlong_opened value container step rest x,
      ← writeAlong_opened value container step rest y]
    have hopened := opened_sameContent h container
    have hfalsy := isFalsy_opened container x
    generalize opened container x = slot at hopened hfalsy
    generalize opened container y = slot' at hopened
    rcases object_or_array_or_blocks hfalsy step.key with
      ⟨members, rfl⟩ | ⟨items, position, rfl, hkey⟩ | hblocks
    · cases hopened with
      | object hnames hvalues =>
        rw [writeAlong_object, writeAlong_object]
        have hmembers := SameContent.object hnames hvalues
        exact hmembers.update (ih _ (SameContent.getD (Json.sameContent_object_iff.1 hmembers _)))
    · cases hopened with
      | array hlength hitems =>
        rw [writeAlong_array _ _ hkey, writeAlong_array _ _ hkey]
        have hall := SameContent.array hlength hitems
        exact hall.updateItem (ih _ (SameContent.getD (Json.sameContent_array_iff.1 hall _)))
    · rw [writeAlong_of_blocks _ _ _ hblocks,
        writeAlong_of_blocks _ _ _ (hblocks.of_sameContent hopened)]
      exact hopened

/-! ## Paths that part -/

/-- `Diverge path other` says that the paths take the same steps up to keys that are apart. -/
inductive Diverge : List Step → List Step → Prop
  | apart {step other : Step} (h : step.key.Apart other.key) (rest others : List Step) :
      Diverge (step :: rest) (other :: others)
  | behind (step : Step) {rest others : List Step} (h : Diverge rest others) :
      Diverge (step :: rest) (step :: others)

/-- Parting does not depend on the order of the paths. -/
theorem Diverge.symm {path other : List Step} (h : Diverge path other) : Diverge other path := by
  induction h with
  | apart h rest others => exact .apart h.symm others rest
  | behind step _ ih => exact .behind step ih

/-- Of paths that part, neither starts with the keys of the other. -/
theorem Diverge.not_prefix {path other : List Step} (h : Diverge path other) :
    ¬path.map Step.key <+: other.map Step.key := by
  induction h with
  | apart h =>
    rw [List.map_cons, List.map_cons, List.cons_prefix_cons]
    rintro ⟨heq, -⟩
    exact h.name_ne (congrArg Key.name heq)
  | behind step _ ih =>
    rw [List.map_cons, List.map_cons, List.prefix_cons_inj]
    exact ih

/-- **Two writes along paths that part commute**, whatever stands in the slot.

**Proof sketch.** Induction on the common steps. Above the place where the paths part, both writes
go into the same member or item, or the same value is in their way. Where they part, they change
different members or items; of an object the new ones may come in a different order. -/
theorem writeAlong_comm {path other : List Step} (h : Diverge path other) (value value' : Json)
    (container : Container) (old : Json) :
    (writeAlong value' container other (writeAlong value container path old)).Alike
      (writeAlong value container path (writeAlong value' container other old)) := by
  induction h generalizing container old with
  | @apart step step' hapart rest others =>
    rw [← writeAlong_opened value container step rest old,
      ← writeAlong_opened value' container step' others old]
    have hfalsy := isFalsy_opened container old
    generalize opened container old = slot at hfalsy
    rcases object_or_array_or_blocks hfalsy step.key with
      ⟨members, rfl⟩ | ⟨items, position, rfl, hkey⟩ | hblocks
    · simp only [writeAlong_object]
      exact Json.alike_object_of_get?_eq
        (Members.get?_update_update_of_ne members _ _ hapart.name_ne)
    · rw [hkey] at hapart
      generalize hkey' : step'.key = key' at hapart
      cases hapart with
      | index hne =>
        simp only [writeAlong_array _ _ hkey, writeAlong_array _ _ hkey']
        rw [Json.updateItem_updateItem_of_ne items _ _ hne]
        exact .refl _
    · have hblocks' := hblocks.of_apart hapart
      simp only [writeAlong_of_blocks _ _ _ hblocks, writeAlong_of_blocks _ _ _ hblocks']
      exact .refl slot
  | @behind step rest others _ ih =>
    rw [← writeAlong_opened value container step rest old,
      ← writeAlong_opened value' container step others old]
    have hfalsy := isFalsy_opened container old
    generalize opened container old = slot at hfalsy
    rcases object_or_array_or_blocks hfalsy step.key with
      ⟨members, rfl⟩ | ⟨items, position, rfl, hkey⟩ | hblocks
    · simp only [writeAlong_object, Members.update_update]
      exact Alike.update (ih _ _)
    · simp only [writeAlong_array _ _ hkey, Json.updateItem_updateItem]
      exact Alike.updateItem (ih _ _)
    · simp only [writeAlong_of_blocks _ _ _ hblocks]
      exact .refl slot

/-! ## Many writes -/

/-- Writes respect the content of the slot. -/
theorem fill_sameContent (container : Container) (placed : List Placed) {x y : Json}
    (h : x.SameContent y) : (fill container placed x).SameContent (fill container placed y) := by
  induction placed generalizing x y with
  | nil => exact h
  | cons p rest ih => exact ih (writeAlong_sameContent p.value p.steps container h)

/-- **Writes along paths that part from each other can be run in any order.**

**Proof sketch.** A permutation is made of exchanges of neighbours. The writes that are exchanged
commute (`writeAlong_comm`), and those that come after them keep the content the same
(`fill_sameContent`). -/
theorem fill_perm {placed placed' : List Placed} (h : placed.Perm placed')
    (hpaths : placed.Pairwise fun p q => Diverge p.steps q.steps) (container : Container)
    (old : Json) : (fill container placed old).SameContent (fill container placed' old) := by
  induction h generalizing old with
  | nil => exact .refl old
  | cons p _ ih => exact ih (List.pairwise_cons.1 hpaths).2 _
  | swap p q rest =>
    obtain ⟨hfirst, -⟩ := List.pairwise_cons.1 hpaths
    exact fill_sameContent container rest
      (writeAlong_comm (hfirst p List.mem_cons_self) q.value p.value container old).sameContent
  | trans hfirst _ ih ih' =>
    have hpaths' := (hfirst.pairwise_iff Diverge.symm).1 hpaths
    exact (ih hpaths old).trans (ih' hpaths' old)

end Request

end Remap
