import Remap.Proofs.Request.Coherence

set_option relaxedAutoImplicit false
set_option autoImplicit false

/-!
# Writes that are dropped

A write goes down from the root of the request, makes containers on the way, and gives up where
something is in its way. Still it is all or nothing. What it makes has room for the key that comes
next, so below a container that it made it does not give up any more; and as long as it made
nothing, it put back everything as it was. A write is therefore dropped exactly when, before the
last key, the way leads to something in the request that blocks the next key.

## Main definitions

* `Remap.Request.Blocked` — values in which something is in the way of a list of keys.

## Main results

* `Remap.Request.writeAlong_of_blocked` — a write with something in its way changes nothing.
* `Remap.Request.Coherent.atPath?_writeAlong` — what a write with nothing in its way leaves at each
  place that it passes.
* `Remap.Request.Target.write_all_or_nothing` — a write changes nothing, or its value is read back.
-/

namespace Remap.Request

open Json (Key)
open Target (writeAlong)

/-- `Blocked value keys` says that going by the keys leads, before the last of them, to something in
the value that is in the way of the next key. -/
def Blocked (value : Json) (keys : List Key) : Prop :=
  ∃ front key rest found, keys = front ++ key :: rest ∧ value.atPath? front = some found ∧
    Blocks found key

/-- Nothing is in the way of no key. -/
@[simp]
theorem not_blocked_nil (value : Json) : ¬Blocked value [] := by
  rintro ⟨front, key, rest, found, hkeys, -⟩
  simp at hkeys

/-- What is in the way is in the way of the first key or of the further ones. -/
theorem blocked_cons_iff {value : Json} {key : Key} {rest : List Key} :
    Blocked value (key :: rest) ↔
      Blocks value key ∨ ∃ child, value.at? key = some child ∧ Blocked child rest := by
  constructor
  · rintro ⟨front, key', rest', found, hkeys, hfound, hblocks⟩
    cases front with
    | nil =>
      obtain ⟨rfl, rfl⟩ := List.cons.inj hkeys
      obtain rfl := Option.some.inj hfound
      left; exact hblocks
    | cons first front =>
      obtain ⟨rfl, rfl⟩ := List.cons.inj hkeys
      obtain ⟨child, hchild, hfound⟩ := Option.bind_eq_some_iff.1 hfound
      right; exact ⟨child, hchild, front, key', rest', found, rfl, hfound, hblocks⟩
  · rintro (hblocks | ⟨child, hchild, front, key', rest', found, rfl, hfound, hblocks⟩)
    · exact ⟨[], key, rest, value, rfl, rfl, hblocks⟩
    · refine ⟨key :: front, key', rest', found, rfl, ?_, hblocks⟩
      rw [Json.atPath?, hchild]
      exact hfound

/-- Nothing is in the way in a falsy value. -/
theorem not_blocked_of_isFalsy {value : Json} (h : value.isFalsy = true) (keys : List Key) :
    ¬Blocked value keys := by
  cases keys with
  | nil => exact not_blocked_nil value
  | cons key rest =>
    rw [blocked_cons_iff, Json.at?_eq_none_of_isFalsy h]
    rintro (hblocks | ⟨child, hchild, -⟩)
    · rw [hblocks.isFalsy_eq] at h
      simp at h
    · simp at hchild

/-- Nothing is in the way in null. -/
@[simp]
theorem not_blocked_null (keys : List Key) : ¬Blocked .null keys :=
  not_blocked_of_isFalsy rfl keys

/-- Something is in the way from a place that may be missing only if the place is there. -/
theorem blocked_getD_iff {found : Option Json} {keys : List Key} :
    Blocked (found.getD .null) keys ↔ ∃ child, found = some child ∧ Blocked child keys := by
  cases found with
  | none => simp
  | some child => simp

/-- What is in the way of the first keys is in the way of all. -/
theorem Blocked.append {value : Json} {keys : List Key} (h : Blocked value keys)
    (more : List Key) : Blocked value (keys ++ more) := by
  obtain ⟨front, key, rest, found, rfl, hfound, hblocks⟩ := h
  exact ⟨front, key, rest ++ more, found, by simp, hfound, hblocks⟩

/-- With something in the way, nothing is read at the end. -/
theorem Blocked.atPath?_eq_none {value : Json} {keys : List Key} (h : Blocked value keys) :
    value.atPath? keys = none := by
  obtain ⟨front, key, rest, found, rfl, hfound, hblocks⟩ := h
  rw [Json.atPath?_append, hfound, Option.bind_some, Json.atPath?, hblocks.at?_eq_none]
  rfl

/-- Where something is read, nothing is in the way. -/
theorem not_blocked_of_atPath? {value found : Json} {keys : List Key}
    (h : value.atPath? keys = some found) : ¬Blocked value keys := by
  intro hblocked
  rw [hblocked.atPath?_eq_none] at h
  simp at h

/-! ## Dropped writes -/

/-- **A write with something in its way changes nothing.**

**Proof sketch.** Induction on the path. Where something is in the way of the first key, the write
stops at once. Otherwise there is a child at that key which the write does not change; so the update
of that member or item puts back the child that was there. -/
theorem writeAlong_of_blocked (value : Json) (container : Container) {path : List Step}
    {old : Json} (h : Blocked old (path.map Step.key)) :
    writeAlong value container path old = old := by
  induction path generalizing container old with
  | nil => exact absurd h (not_blocked_nil old)
  | cons step rest ih =>
    rw [List.map_cons, blocked_cons_iff] at h
    rcases h with hblocks | ⟨child, hchild, hrest⟩
    · exact writeAlong_of_blocks value container rest hblocks
    · exact writeAlong_eq_self_of_at? container hchild (ih step.container hrest)

/-! ## Writes that arrive -/

namespace Coherent

/-- A write that can enter the slot leaves, at its first key, what it writes there; a missing child
counts as null. -/
theorem at?_writeAlong {spec : Option Json} {step : Step} {rest : List Step}
    (h : Coherent spec (step :: rest)) {old : Json} (hold : ¬Blocks old step.key) (value : Json) :
    (writeAlong value (Container.ofSpec spec) (step :: rest) old).at? step.key =
      some (writeAlong value step.container rest ((old.at? step.key).getD .null)) := by
  rw [← at?_opened (Container.ofSpec spec) old]
  rcases writeAlong_cases value (Container.ofSpec spec) step rest old with
    ⟨members, hslot, hafter⟩ | ⟨items, position, hslot, hkey, hafter⟩ | ⟨hblocks, -⟩
  · rw [hafter, hslot]
    exact Members.get?_update_self _ _ _
  · rw [hafter, hslot, hkey]
    exact Json.getElem?_updateItem_self _ _ _
  · exact absurd hblocks (h.not_blocks_opened hold)

/-- **What a write leaves at a place that it passes**, if nothing is in the way up to there: what
its further steps write there. A missing value counts as null, and the container to make at the
place is that of the spec. -/
theorem atPath?_writeAlong {spec : Option Json} {front rest : List Step}
    (h : Coherent spec (front ++ rest)) {old : Json} (hold : ¬Blocked old (front.map Step.key))
    (value : Json) :
    (writeAlong value (Container.ofSpec spec) (front ++ rest) old).atPath? (front.map Step.key) =
      some (writeAlong value
        (Container.ofSpec (spec.bind (·.atPath? (front.map Step.key)))) rest
        ((old.atPath? (front.map Step.key)).getD .null)) := by
  induction front generalizing spec old with
  | nil => cases spec <;> rfl
  | cons step front ih =>
    rw [List.cons_append] at h ⊢
    rw [List.map_cons, blocked_cons_iff, not_or] at hold
    -- Where the child is missing, null stands for it, and in null nothing is in the way.
    have hchild : ¬Blocked ((old.at? step.key).getD .null) (front.map Step.key) :=
      fun hblocked => hold.2 (blocked_getD_iff.1 hblocked)
    have hrest := ih h.tail hchild
    rw [← h.container_eq, Option.bind_assoc] at hrest
    rw [List.map_cons, Json.atPath?, h.at?_writeAlong hold.1, Option.bind_some,
      Json.getD_atPath?_cons]
    exact hrest

end Coherent

namespace Target

/-- A target with steps writes along them from the root of the request, which is an object, whatever
container would be made there. -/
theorem object_write {t : Target} (ht : t.steps ≠ []) (container : Container) (value : Json)
    (request : Members) :
    Json.object (t.write (some value) request) =
      writeAlong value container t.steps (.object request) := by
  obtain ⟨step, rest, hsteps⟩ := List.exists_cons_of_ne_nil ht
  simp only [write, hsteps, writeAlong_object]

/-- **A write is all or nothing.** If going by the keys of the target from the root of the request
leads, before the last of them, to something that is in the way of the next key, then the request
stays as it is, and nothing is read from it along the keys. In every other case exactly the value is
read along the keys afterwards. Without a value the request always stays as it is.

**Proof sketch.** The steps follow the spec (`coherent_of_ofSegments`). With something in the way,
every step puts back what was there (`writeAlong_of_blocked`). Otherwise nothing comes in the way
while the write goes down, since what it makes has room for the next key
(`Coherent.not_blocks_opened`); so by induction on the keys it leaves its value at their end
(`Coherent.atPath?_writeAlong`). -/
theorem write_all_or_nothing {segments : List String} {spec : Json} {t : Target}
    (h : ofSegments segments spec = .ok t) (request : Members) :
    (∀ value, Blocked (.object request) t.keys →
      t.write (some value) request = request ∧ (Json.object request).atPath? t.keys = none) ∧
    (∀ value, ¬Blocked (.object request) t.keys →
      (Json.object (t.write (some value) request)).atPath? t.keys = some value) ∧
    t.write none request = request := by
  obtain ⟨hne, hcoherent⟩ := coherent_of_ofSegments h
  refine ⟨fun value hblocked => ⟨?_, hblocked.atPath?_eq_none⟩, fun value hfree => ?_,
    t.write_none request⟩
  · apply Json.object.inj
    rw [object_write hne .object, writeAlong_of_blocked value .object hblocked]
  · rw [object_write hne (Container.ofSpec (some spec))]
    have hpath : Coherent (some spec) (t.steps ++ []) := by rwa [List.append_nil]
    have hwrite := hpath.atPath?_writeAlong hfree value
    rwa [List.append_nil] at hwrite

/-- A write through an array of the spec. An empty text in its place becomes an array; in an object
in its place, a text under the digits of the position is in the way. -/
theorem write_all_or_nothing_falsy_array :
    let spec := Json.object
      [("body", .object [("list", .array [.string "{x}", .object [("a", .string "{y}")]])])]
    let keys := [Key.field "body", .field "list", .index 1, .field "a"]
    let falsy : Members := [("body", .object [("list", .string "")])]
    let taken : Members := [("body", .object [("list", .object [("1", .string "text")])])]
    ∃ t, ofSegments ["body", "list", "01", "a"] spec = .ok t ∧ t.keys = keys ∧
      (Json.object (t.write (some .null) falsy)).atPath? keys = some .null ∧
      t.write (some .null) taken = taken ∧ t.write none falsy = falsy := by
  intro spec keys falsy taken
  obtain ⟨t, h, hkeys⟩ : ∃ t, ofSegments ["body", "list", "01", "a"] spec = .ok t ∧
    t.keys = keys := ⟨_, rfl, rfl⟩
  have hfree : ¬Blocked (.object falsy) t.keys := by
    have hslot : ¬Blocks (.string "") (.index 1) := fun hblocks =>
      absurd hblocks.isFalsy_eq (by decide)
    rw [hkeys]
    simpa [keys, falsy, blocked_cons_iff, not_blocks_object, Json.at?, Key.name, Members.get?]
      using hslot
  have hblocked : Blocked (.object taken) t.keys :=
    ⟨[.field "body", .field "list", .index 1], .field "a", [], .string "text", hkeys, rfl,
      .string (by decide) _⟩
  refine ⟨t, h, hkeys, ?_, ((write_all_or_nothing h taken).1 .null hblocked).1,
    (write_all_or_nothing h falsy).2.2⟩
  rw [← hkeys]
  exact (write_all_or_nothing h falsy).2.1 .null hfree

end Target

end Remap.Request
