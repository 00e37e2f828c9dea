import Remap.Proofs.Request.Dropping

set_option relaxedAutoImplicit false
set_option autoImplicit false

/-!
# What a write leaves alone

A write changes the request along the keys of its target only. Every other place reads as before,
except for the items of arrays on the way which did not exist and come before the position that the
write goes to: these become null. The containers on the way stay what they are and keep what they
hold in its order; an object gains at most the name that the write goes to, at its end. Where there
was nothing, or something falsy, a container of the kind that the spec holds there is made. An array
grows as far as the position needs, which is never beyond the length of the array of the spec.

Places are compared by the names of their keys, since in an object a position stands for the name
that its digits spell.

## Main definitions

* `Remap.Request.Unrelated` — places none of which is on the way to the other.
* `Remap.Request.Skipped` — the items that a write passes over.
* `Remap.Request.Frame` — what a write leaves as it was, and what it makes of the rest.

## Main results

* `Remap.Request.atPath?_writeAlong_of_unrelated` — the places that are not on the way.
* `Remap.Request.Target.frame_write` — the frame of a write.
-/

namespace Remap.Request

open Json (Key)
open Target (writeAlong)

/-! ## Places that are not on the way -/

/-- Neither place is on the way to the other. -/
def Unrelated (position keys : List Key) : Prop :=
  ¬position.map Key.name <+: keys.map Key.name ∧ ¬keys.map Key.name <+: position.map Key.name

/-- Places are unrelated if their first keys have different names or if they are unrelated from
there. -/
theorem unrelated_cons_iff {key other : Key} {position keys : List Key} :
    Unrelated (key :: position) (other :: keys) ↔
      key.name ≠ other.name ∨ Unrelated position keys := by
  unfold Unrelated
  rw [List.map_cons, List.map_cons, List.cons_prefix_cons, List.cons_prefix_cons]
  by_cases h : key.name = other.name
  · simp [h]
  · simp [h, Ne.symm h]

/-- The root is on the way to every place. -/
theorem Unrelated.ne_nil {position keys : List Key} (h : Unrelated position keys) :
    position ≠ [] ∧ keys ≠ [] := by
  constructor
  · rintro rfl
    exact h.1 List.nil_prefix
  · rintro rfl
    exact h.2 List.nil_prefix

/-- The position is that of an item of an array on the way, before the item that the keys go to. -/
def Skipped (after : Json) (keys position : List Key) : Prop :=
  ∃ front index rest place wanted items, keys = front ++ .index index :: rest ∧
    position = place ++ [.index wanted] ∧ place.map Key.name = front.map Key.name ∧
    wanted < index ∧ after.atPath? place = some (.array items)

/-- An item of the array itself is passed over if it comes before the position. -/
theorem skipped_index (items : List Json) {index wanted : Nat} (h : wanted < index)
    (rest : List Key) : Skipped (.array items) (.index index :: rest) [.index wanted] :=
  ⟨[], index, rest, [], wanted, items, rfl, rfl, rfl, h, rfl⟩

/-- What is passed over in a child is passed over on the way through the child. -/
theorem Skipped.cons {after child : Json} {keys position : List Key}
    (h : Skipped child keys position) {key other : Key} (hname : key.name = other.name)
    (hchild : after.at? key = some child) : Skipped after (other :: keys) (key :: position) := by
  obtain ⟨front, index, rest, place, wanted, items, rfl, rfl, hnames, hlt, hitems⟩ := h
  refine ⟨other :: front, index, rest, key :: place, wanted, items, rfl, rfl, ?_, hlt, ?_⟩
  · rw [List.map_cons, List.map_cons, hname, hnames]
  · rw [Json.atPath?, hchild]
    exact hitems

/-- An item that is passed over is not on the way. -/
theorem Skipped.unrelated {after : Json} {keys position : List Key}
    (h : Skipped after keys position) : Unrelated position keys := by
  obtain ⟨front, index, rest, place, wanted, items, rfl, rfl, hnames, hlt, -⟩ := h
  have hne : (Key.index wanted).name ≠ (Key.index index).name := fun heq =>
    absurd (Text.decimal_injective heq) (Nat.ne_of_lt hlt)
  constructor
  · rw [List.map_append, List.map_append, hnames, List.prefix_append_right_inj]
    simp [hne]
  · rw [List.map_append, List.map_append, hnames, List.prefix_append_right_inj]
    simp [hne.symm]

/-- **A place that is not on the way reads as before**, unless it is a missing item that the write
passes over and that becomes null.

**Proof sketch.** Induction on the path, one step by `at?_writeAlong_cases`. A child that stays
reads as before as a whole. Below the child that the write goes into, the place is not on the way of
the further steps. A missing item that becomes null is passed over, and below it nothing is read, as
before. -/
theorem atPath?_writeAlong_of_unrelated (value : Json) (container : Container) {path : List Step}
    {position : List Key} (h : Unrelated position (path.map Step.key)) (old : Json) :
    (writeAlong value container path old).atPath? position = old.atPath? position ∨
    (old.atPath? position = none ∧
      Skipped (writeAlong value container path old) (path.map Step.key) position ∧
      (writeAlong value container path old).atPath? position = some .null) := by
  induction path generalizing container position old with
  | nil => exact absurd rfl h.ne_nil.2
  | cons step rest ih =>
    obtain ⟨key, below, rfl⟩ := List.exists_cons_of_ne_nil h.ne_nil.1
    rw [List.map_cons, unrelated_cons_iff] at h
    simp only [Json.atPath?, List.map_cons]
    rcases at?_writeAlong_cases value container step rest old key with
      ⟨hname, hafter⟩ | hafter | ⟨hold, hafter, index, wanted, items, hkey, rfl, hlt, harray⟩
    · -- The write goes into this child, so the two places part further down.
      have hbelow := h.resolve_left (not_not_intro hname)
      rw [hafter, Option.bind_some, ← Json.atPath?_getD_null _ hbelow.ne_nil.1]
      rcases ih step.container hbelow ((old.at? key).getD .null) with
        heq | ⟨hnone, hitem, hnull⟩
      · left; exact heq
      · right; exact ⟨hnone, hitem.cons hname hafter, hnull⟩
    · left
      rw [hafter]
    · rw [hold, hafter, hkey, harray]
      cases below with
      | nil => right; exact ⟨rfl, skipped_index items hlt _, rfl⟩
      | cons next others => left; rfl

/-! ## Lengths of arrays -/

/-- The length of what is found, if it is an array; anything else counts as an array of no items. -/
def arrayLength : Option Json → Nat
  | some (.array items) => items.length
  | _ => 0

/-- Opening a slot changes no length. -/
theorem arrayLength_opened (container : Container) (old : Json) :
    arrayLength (some (opened container old)) = arrayLength (some old) := by
  cases hfalsy : old.isFalsy with
  | true =>
    rw [opened_of_isFalsy container hfalsy]
    cases old with
    | array | object => simp [Json.isFalsy] at hfalsy
    | _ => cases container <;> rfl
  | false => rw [opened_eq_self container hfalsy]

/-- An array that a write goes into at a position grows just as far as the position needs. -/
theorem length_of_writeAlong_eq_array {value : Json} {container : Container} {step : Step}
    {rest : List Step} {old : Json} {items : List Json} {index : Nat}
    (hkey : step.key = .index index)
    (h : writeAlong value container (step :: rest) old = .array items) :
    items.length = max (arrayLength (some old)) (index + 1) := by
  rw [← arrayLength_opened container old]
  rcases writeAlong_cases value container step rest old with
    ⟨members, -, hafter⟩ | ⟨olds, position, hslot, hposition, hafter⟩ | ⟨hblocks, hafter⟩
  · rw [hafter] at h
    simp at h
  · obtain rfl := Key.index.inj (hkey.symm.trans hposition)
    obtain rfl := Json.array.inj (h.symm.trans hafter)
    rw [hslot]
    exact Json.length_updateItem _ _ _
  · rw [← hafter, h, hkey] at hblocks
    obtain ⟨name, hname⟩ := blocks_array_iff.1 hblocks
    simp at hname

/-! ## The frame -/

/-- `Frame spec keys before after` says what a write along the keys of a target for the spec makes
of the request. -/
structure Frame (spec : Json) (keys : List Key) (before after : Json) : Prop where
  /-- A write with something in its way changes nothing. -/
  dropped : Blocked before keys → after = before
  /-- A place that is not on the way reads as before, unless it is a missing item that is passed
  over. -/
  kept : ∀ position, Unrelated position keys →
    ¬(before.atPath? position = none ∧ Skipped after keys position) →
    after.atPath? position = before.atPath? position
  /-- A missing item that is passed over becomes null. -/
  padded : ¬Blocked before keys → ∀ position, before.atPath? position = none →
    Skipped after keys position → after.atPath? position = some .null
  /-- An object on the way stays one and keeps its names in order; the one that the write goes to is
  added at the end if it is missing. -/
  object : ∀ front key rest (members : Members), keys = front ++ key :: rest →
    before.atPath? front = some (.object members) →
    ∃ members' : Members, after.atPath? front = some (.object members') ∧
      members'.keys = if key.name ∈ members.keys then members.keys else members.keys ++ [key.name]
  /-- An array on the way stays one and keeps its items where they are, but for the one that the
  write goes to. -/
  array : ∀ front key rest items, keys = front ++ key :: rest →
    before.atPath? front = some (.array items) →
    ∃ items', after.atPath? front = some (.array items') ∧
      ∀ position item, items[position]? = some item → key ≠ .index position →
        items'[position]? = some item
  /-- Where nothing or something falsy was on the way, there is an array afterwards if the spec
  holds an array there, and an object if it does not. -/
  made : ¬Blocked before keys → ∀ front key rest, keys = front ++ key :: rest →
    (∀ found, before.atPath? front = some found → found.isFalsy = true) →
    ((∃ items, spec.atPath? front = some (.array items)) →
      ∃ items, after.atPath? front = some (.array items)) ∧
    ((∀ items, spec.atPath? front ≠ some (.array items)) →
      ∃ members, after.atPath? front = some (.object members))
  /-- An array that the write goes into at a position is as long as before or as the position needs,
  whichever is more; the array of the spec there has an item at that position, so nothing grows
  beyond its length. -/
  length : ∀ front index rest items, keys = front ++ .index index :: rest →
    after.atPath? front = some (.array items) →
    items.length = max (arrayLength (before.atPath? front)) (index + 1) ∧
      ∃ specItems, spec.atPath? front = some (.array specItems) ∧ index + 1 ≤ specItems.length ∧
        items.length ≤ max (arrayLength (before.atPath? front)) specItems.length

namespace Coherent

variable {spec : Json} {path : List Step} (h : Coherent (some spec) path) (value : Json)
  {old : Json} {front : List Key} {key : Key} {rest : List Key}

include h

section OnTheWay

variable (hkeys : path.map Step.key = front ++ key :: rest)

include hkeys

/-- What a write leaves at a place on its way, if nothing is in the way up to there. -/
theorem exists_atPath?_writeAlong (hold : ¬Blocked old front) :
    ∃ step steps, step.key = key ∧ Coherent (spec.atPath? front) (step :: steps) ∧
      (writeAlong value (Container.ofSpec (some spec)) path old).atPath? front =
        some (writeAlong value (Container.ofSpec (spec.atPath? front)) (step :: steps)
          ((old.atPath? front).getD .null)) := by
  obtain ⟨first, last, rfl, rfl, hlast⟩ := List.map_eq_append_iff.1 hkeys
  obtain ⟨step, steps, rfl, rfl, rfl⟩ := List.map_eq_cons_iff.1 hlast
  exact ⟨step, steps, rfl, h.append_right, h.atPath?_writeAlong hold value⟩

/-- An object on the way stays one and gains at most the name of its key. -/
theorem object_writeAlong {members : Members} (hold : old.atPath? front = some (.object members)) :
    ∃ members' : Members,
      (writeAlong value (Container.ofSpec (some spec)) path old).atPath? front =
        some (.object members') ∧
      members'.keys = if key.name ∈ members.keys then members.keys
        else members.keys ++ [key.name] := by
  obtain ⟨step, steps, rfl, -, hafter⟩ :=
    h.exists_atPath?_writeAlong value hkeys (not_blocked_of_atPath? hold)
  rw [hafter, hold, Option.getD_some, writeAlong_object]
  exact ⟨_, rfl, Members.keys_update _ _ _⟩

/-- An array on the way stays one and keeps the items at other positions. -/
theorem array_writeAlong {items : List Json} (hold : old.atPath? front = some (.array items)) :
    ∃ items', (writeAlong value (Container.ofSpec (some spec)) path old).atPath? front =
        some (.array items') ∧
      ∀ position item, items[position]? = some item → key ≠ .index position →
        items'[position]? = some item := by
  obtain ⟨step, steps, rfl, -, hafter⟩ :=
    h.exists_atPath?_writeAlong value hkeys (not_blocked_of_atPath? hold)
  rw [hafter, hold, Option.getD_some]
  generalize hkey : step.key = key
  cases key with
  | field name =>
    rw [writeAlong_of_blocks _ _ _ (hkey ▸ .array items name)]
    exact ⟨items, rfl, fun position item hitem _ => hitem⟩
  | index index =>
    rw [writeAlong_array _ _ hkey]
    refine ⟨_, rfl, fun position item hitem hne => ?_⟩
    rw [Json.getElem?_updateItem_of_ne _ _ (fun heq => hne (by rw [heq])), hitem]
    simp

/-- What is made on the way is what the spec holds there. -/
theorem made_writeAlong (hfree : ¬Blocked old (path.map Step.key))
    (hold : ∀ found, old.atPath? front = some found → found.isFalsy = true) :
    ((∃ items, spec.atPath? front = some (.array items)) →
      ∃ items, (writeAlong value (Container.ofSpec (some spec)) path old).atPath? front =
        some (.array items)) ∧
    ((∀ items, spec.atPath? front ≠ some (.array items)) →
      ∃ members, (writeAlong value (Container.ofSpec (some spec)) path old).atPath? front =
        some (.object members)) := by
  have hfront : ¬Blocked old front := fun hblocked => hfree (hkeys ▸ hblocked.append _)
  obtain ⟨step, steps, rfl, hsteps, hafter⟩ := h.exists_atPath?_writeAlong value hkeys hfront
  have hfalsy : ((old.atPath? front).getD .null).isFalsy = true := by
    cases hfound : old.atPath? front with
    | none => rfl
    | some found => exact hold found hfound
  rw [hafter, writeAlong_of_isFalsy _ _ _ _ hfalsy]
  constructor
  · rintro ⟨items, hspec⟩
    rw [hspec] at hsteps ⊢
    cases hsteps with
    | item => exact ⟨_, congrArg some (writeAlong_array _ _ rfl _ _)⟩
    | member hnone => exact absurd rfl (hnone items)
  · intro hspec
    rw [Container.ofSpec_eq_object hspec]
    exact ⟨_, congrArg some (writeAlong_object _ _ _ _ _)⟩

end OnTheWay

/-- An array on the way is as long as before or as the position needs, and the array of the spec is
long enough for the position. -/
theorem length_writeAlong {index : Nat} (hkeys : path.map Step.key = front ++ .index index :: rest)
    {items : List Json}
    (hitems : (writeAlong value (Container.ofSpec (some spec)) path old).atPath? front =
      some (.array items)) :
    items.length = max (arrayLength (old.atPath? front)) (index + 1) ∧
      ∃ specItems, spec.atPath? front = some (.array specItems) ∧ index + 1 ≤ specItems.length ∧
        items.length ≤ max (arrayLength (old.atPath? front)) specItems.length := by
  have hfront : ¬Blocked old front := by
    intro hblocked
    rw [writeAlong_of_blocked _ _ (hkeys ▸ hblocked.append _), hblocked.atPath?_eq_none] at hitems
    simp at hitems
  obtain ⟨step, steps, hkey, hsteps, hafter⟩ := h.exists_atPath?_writeAlong value hkeys hfront
  obtain ⟨specItems, hspec, hlt⟩ := hsteps.exists_of_index hkey
  have hlength := length_of_writeAlong_eq_array hkey (Option.some.inj (hafter.symm.trans hitems))
  have hold : arrayLength (some ((old.atPath? front).getD .null)) =
      arrayLength (old.atPath? front) := by
    cases old.atPath? front <;> rfl
  rw [hold] at hlength
  exact ⟨hlength, specItems, hspec, hlt, by omega⟩

/-- A missing item that the write passes over becomes null: the array reaches up to the position
behind it. -/
theorem padded_writeAlong (hfree : ¬Blocked old (path.map Step.key)) {position : List Key}
    (hold : old.atPath? position = none)
    (hitem : Skipped (writeAlong value (Container.ofSpec (some spec)) path old)
      (path.map Step.key) position) :
    (writeAlong value (Container.ofSpec (some spec)) path old).atPath? position = some .null := by
  rcases atPath?_writeAlong_of_unrelated value (Container.ofSpec (some spec)) hitem.unrelated old
    with heq | ⟨-, -, hnull⟩
  · obtain ⟨front, index, rest, place, wanted, items, hkeys, rfl, hnames, hlt, hitems⟩ := hitem
    have hfront : ¬Blocked old front := fun hblocked => hfree (hkeys ▸ hblocked.append _)
    obtain ⟨step, steps, -, -, hafter⟩ := h.exists_atPath?_writeAlong value hkeys hfront
    -- The place of the array may be spelled otherwise than on the way, but it is the same array.
    rw [← Json.atPath?_eq_of_names_eq hnames hitems hafter] at hafter
    have hlength := (h.length_writeAlong value hkeys hafter).1
    rw [hold, Json.atPath?_append, hitems] at heq
    have hnone : items[wanted]? = none := by simpa [Json.atPath?, Json.at?] using heq
    rw [List.getElem?_eq_none_iff] at hnone
    omega
  · exact hnull

/-- A write along a path that follows the spec has the frame. -/
theorem frame (old : Json) :
    Frame spec (path.map Step.key) old
      (writeAlong value (Container.ofSpec (some spec)) path old) where
  dropped hblocked := writeAlong_of_blocked _ _ hblocked
  kept position hposition hkept := by
    rcases atPath?_writeAlong_of_unrelated value (Container.ofSpec (some spec)) hposition old with
      heq | ⟨hnone, hitem, -⟩
    · exact heq
    · exact absurd ⟨hnone, hitem⟩ hkept
  padded hfree position hnone hitem := h.padded_writeAlong value hfree hnone hitem
  object front key rest members hkeys hold := h.object_writeAlong value hkeys hold
  array front key rest items hkeys hold := h.array_writeAlong value hkeys hold
  made hfree front key rest hkeys hold := h.made_writeAlong value hkeys hfree hold
  length front index rest items hkeys hitems := h.length_writeAlong value hkeys hitems

end Coherent

namespace Target

/-- **The frame of a write.** Whatever the request holds, writing any value at a target leaves every
place as it was that is neither on the way nor at or below the target, except for missing items that
it passes over, which become null. Containers on the way stay and keep what they hold in order,
those that are made are of the kind that the spec holds there, and no array grows beyond the length
of the one of the spec.

**Proof sketch.** What a write does to a child of the slot (`at?_writeAlong_cases`) says by
induction what it does to all places that are not on the way (`atPath?_writeAlong_of_unrelated`). At
a place on the way there is afterwards what the further steps write there
(`Coherent.atPath?_writeAlong`), and what the first of them does is seen from the slot and from the
spec. -/
theorem frame_write {segments : List String} {spec : Json} {t : Target}
    (h : ofSegments segments spec = .ok t) (request : Members) (value : Json) :
    Frame spec t.keys (.object request) (.object (t.write (some value) request)) := by
  obtain ⟨hne, hcoherent⟩ := coherent_of_ofSegments h
  rw [object_write hne (Container.ofSpec (some spec))]
  exact hcoherent.frame value (.object request)

/-- A write behind the end of an array: the member beside the array stays, the item that is passed
over becomes null, and the array has three items. -/
theorem frame_write_padded_array :
    let spec := Json.object [("body", .object [("list", .array [.null, .null, .string "{x}"])])]
    let request : Members :=
      [("body", .object [("kept", .bool true), ("list", .array [.bool false])])]
    ∃ t, ofSegments ["body", "list", "2"] spec = .ok t ∧
      (Json.object (t.write (some (.string "new")) request)).atPath?
        [.field "body", .field "kept"] = some (.bool true) ∧
      (Json.object (t.write (some (.string "new")) request)).atPath?
        [.field "body", .field "list", .index 1] = some .null ∧
      ∀ items, (Json.object (t.write (some (.string "new")) request)).atPath?
        [.field "body", .field "list"] = some (.array items) → items.length = 3 := by
  intro spec request
  obtain ⟨t, h, hkeys⟩ : ∃ t, ofSegments ["body", "list", "2"] spec = .ok t ∧
    t.keys = [.field "body", .field "list", .index 2] := ⟨_, rfl, rfl⟩
  have hframe := frame_write h request (.string "new")
  rw [hkeys] at hframe
  refine ⟨t, h, ?_, ?_, fun items hitems => ?_⟩
  · refine hframe.kept [.field "body", .field "kept"] ⟨by decide, by decide⟩ ?_
    rintro ⟨⟨⟩, -⟩
  · have hfree : ¬Blocked (.object request)
        [.field "body", .field "list", .index 2] := by
      simp [request, blocked_cons_iff, not_blocks_object, blocks_array_iff, Json.at?, Key.name,
        Members.get?]
    obtain ⟨items, hitems, -⟩ := hframe.array [.field "body", .field "list"] _ _ _ rfl rfl
    exact hframe.padded hfree _ rfl
      ⟨[.field "body", .field "list"], 2, [], [.field "body", .field "list"], 1, items, rfl, rfl,
        rfl, by decide, hitems⟩
  · exact (hframe.length [.field "body", .field "list"] 2 [] items rfl hitems).1

end Target

end Remap.Request
