import Remap.Proofs.Request.Dropping

set_option relaxedAutoImplicit false
set_option autoImplicit false

/-!
# Writing again

A target is a place: writing what is already there changes nothing, and of two writes only the
second one is left. Both hold exactly, down to the order of the members, for whatever the request
holds. The first write makes the containers that are missing and puts new members at the end, and
the second one goes through them; where something is in the way, it is in the way of both. An object
in the place of an array is gone through by the digits of the position each time.

## Main results

* `Remap.Request.writeAlong_of_atPath?` — writing what is at the end of the path.
* `Remap.Request.writeAlong_writeAlong` — two writes along one path.
* `Remap.Request.Target.write_again` — both laws for a target.
-/

namespace Remap.Request

open Json (Key)
open Target (writeAlong)

/-- **Writing what is already at the end of the path changes nothing.**

**Proof sketch.** Induction on the path. The value is at the end of the further steps from the child
at the first key; they leave the child as it is, so the first step does so with the slot. -/
theorem writeAlong_of_atPath? {value : Json} (container : Container) {path : List Step}
    {old : Json} (h : old.atPath? (path.map Step.key) = some value) :
    writeAlong value container path old = old := by
  induction path generalizing container old with
  | nil =>
    obtain rfl := Option.some.inj h
    rfl
  | cons step rest ih =>
    obtain ⟨child, hchild, hrest⟩ := Option.bind_eq_some_iff.1 h
    exact writeAlong_eq_self_of_at? container hchild (ih step.container hrest)

/-- **Of two writes along one path only the second one is left.**

**Proof sketch.** Induction on the path. The first write leaves an object with the member updated,
an array with the item changed, or what is in its way (`writeAlong_cases`). The second write changes
the same member or item once more, where the two changes are one by the induction, or it stops at
the same place. -/
theorem writeAlong_writeAlong (value value' : Json) (path : List Step) (container : Container)
    (old : Json) :
    writeAlong value' container path (writeAlong value container path old) =
      writeAlong value' container path old := by
  induction path generalizing container old with
  | nil => rfl
  | cons step rest ih =>
    have hboth : (fun child => writeAlong value' step.container rest
        (writeAlong value step.container rest child)) =
          writeAlong value' step.container rest := by
      funext child
      exact ih step.container child
    rw [← writeAlong_opened value' container step rest old]
    rcases writeAlong_cases value container step rest old with
      ⟨members, hslot, hfirst⟩ | ⟨items, position, hslot, hkey, hfirst⟩ | ⟨-, hfirst⟩
    · rw [hfirst, hslot, writeAlong_object, writeAlong_object, Members.update_update, hboth]
    · rw [hfirst, hslot, writeAlong_array _ _ hkey, writeAlong_array _ _ hkey,
        Json.updateItem_updateItem, hboth]
    · rw [hfirst]

namespace Target

/-- **Writing again at a target.** Take any target, be it compiled against a spec or not, and any
request. If the keys of the target lead to a value in the request, then writing this value leaves
the request as it is. And writing one value after another leaves the request as writing the second
one alone does, whether or not something is in the way.

**Proof sketch.** A write goes along the steps of the target from the root of the request, which is
an object; so the laws are those of writes along a path (`writeAlong_of_atPath?`,
`writeAlong_writeAlong`). Without steps nothing is written. -/
theorem write_again (t : Target) (request : Members) :
    (∀ value, (Json.object request).atPath? t.keys = some value →
      t.write (some value) request = request) ∧
    ∀ value value', t.write (some value') (t.write (some value) request) =
      t.write (some value') request := by
  by_cases ht : t.steps = []
  · have hnone : ∀ value members, t.write (some value) members = members := by
      intro value members
      simp [write, ht]
    exact ⟨fun value _ => hnone value request, fun value value' => by rw [hnone value]⟩
  · refine ⟨fun value hvalue => ?_, fun value value' => ?_⟩
    · apply Json.object.inj
      rw [object_write ht .object]
      exact writeAlong_of_atPath? .object hvalue
    · apply Json.object.inj
      rw [object_write ht .object, object_write ht .object, object_write ht .object]
      exact writeAlong_writeAlong value value' t.steps .object (.object request)

/-- A target through an array of the spec. In the first request an object stands in its place and is
gone through by the digits of the position; in the second one an array has to grow, and in the third
one a text is in the way. -/
theorem write_again_digits :
    let spec := Json.object [("body", .object [("list", .array [.string "{x}", .string "{y}"])])]
    let digits : Members := [("body", .object [("list", .object [("1", .null), ("0", .null)])])]
    let short : Members := [("body", .object [("list", .array []), ("a", .null)])]
    let taken : Members := [("body", .object [("list", .string "text")])]
    ∃ t, ofSegments ["body", "list", "1"] spec = .ok t ∧
      t.write (some .null) digits = digits ∧
      t.write (some (.bool true)) (t.write (some (.string "v")) short) =
        [("body", .object [("list", .array [.null, .bool true]), ("a", .null)])] ∧
      t.write (some (.bool true)) (t.write (some (.string "v")) taken) = taken := by
  intro spec digits short taken
  obtain ⟨t, h, hkeys⟩ : ∃ t, ofSegments ["body", "list", "1"] spec = .ok t ∧
    t = ⟨"body.list.1", [⟨.field "body", .object⟩, ⟨.field "list", .array⟩,
      ⟨.index 1, .object⟩]⟩ := ⟨_, rfl, rfl⟩
  subst hkeys
  refine ⟨_, h, (write_again _ digits).1 .null rfl, ?_, ?_⟩
  · exact ((write_again _ short).2 (.string "v") (.bool true)).trans rfl
  · exact ((write_again _ taken).2 (.string "v") (.bool true)).trans rfl

end Target

end Remap.Request
