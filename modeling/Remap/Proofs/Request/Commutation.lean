import Remap.Proofs.Request.Dropping

set_option relaxedAutoImplicit false
set_option autoImplicit false

/-!
# Writes at unrelated targets

Two targets for one spec are unrelated when the keys of neither are the first keys of the other.
Their paths then part from each other, so the two writes commute, whatever the request holds: it may
hold scalars in the way, or containers of other kinds than the spec. Neither write puts anything in
the way of the other or takes it away, so whether one of them is dropped does not depend on which
comes first, either.

## Main results

* `Remap.Request.Diverge.blocked_writeAlong_iff` — a write leaves the same in the way of a path that
  parts from its own.
* `Remap.Request.Target.write_write_alike` — writes at unrelated targets commute.
-/

namespace Remap.Request

open Json (Key)
open Target (writeAlong)

/-- **A write leaves the same in the way of a path that parts from its own.**

**Proof sketch.** Induction on the common steps. What is in the way of the first key is the same
before and after. Where the paths part, the write changes another child than the one the path goes
to, or makes that child null, and in null nothing is in the way. Before that, both go to the same
child, which may be missing. -/
theorem Diverge.blocked_writeAlong_iff {path other : List Step} (hpaths : Diverge path other)
    {spec : Option Json} (h : Coherent spec path) (h' : Coherent spec other) (value old : Json) :
    Blocked (writeAlong value (Container.ofSpec spec) other old) (path.map Step.key) ↔
      Blocked old (path.map Step.key) := by
  induction hpaths generalizing spec old with
  | @apart step step' hapart rest others =>
    rw [List.map_cons, blocked_cons_iff, blocked_cons_iff, h.blocks_writeAlong_iff]
    refine or_congr_right ?_
    rcases at?_writeAlong_cases value (Container.ofSpec spec) step' others old step.key with
      ⟨hname, -⟩ | hafter | ⟨hold, hafter, -⟩
    · exact absurd hname hapart.name_ne
    · rw [hafter]
    · rw [hold, hafter]
      simp
  | @behind step rest others _ ih =>
    rw [List.map_cons, blocked_cons_iff, blocked_cons_iff, h.blocks_writeAlong_iff]
    by_cases hold : Blocks old step.key
    · simp only [hold, true_or]
    · have hrest := ih h.tail h'.tail ((old.at? step.key).getD .null)
      rw [← h.container_eq, blocked_getD_iff] at hrest
      rw [h'.at?_writeAlong hold, ← hrest]
      simp [hold]

namespace Target

section Unrelated

variable {segments segments' : List String} {spec : Json} {t t' : Target}
  (h : ofSegments segments spec = .ok t) (h' : ofSegments segments' spec = .ok t')
  (hkeys : ¬t.keys <+: t'.keys) (hkeys' : ¬t'.keys <+: t.keys)

include h h' hkeys hkeys'

/-- The paths of unrelated targets part from each other. -/
theorem diverge_of_ofSegments : Diverge t.steps t'.steps :=
  (coherent_of_ofSegments h).2.diverge (coherent_of_ofSegments h').2 hkeys hkeys'

/-- Whether a write is dropped does not depend on a write at an unrelated target before it. -/
theorem blocked_write_iff (request : Members) (value : Option Json) :
    Blocked (.object (t'.write value request)) t.keys ↔ Blocked (.object request) t.keys := by
  cases value with
  | none => rfl
  | some value =>
    obtain ⟨hne, hcoherent⟩ := coherent_of_ofSegments h'
    rw [object_write hne (Container.ofSpec (some spec))]
    exact (diverge_of_ofSegments h h' hkeys hkeys').blocked_writeAlong_iff
      (coherent_of_ofSegments h).2 hcoherent value (.object request)

/-- **Writes at unrelated targets commute.** Take any two targets for a spec, where the keys of
neither are the first keys of the other, any request and any two values, be they missing. The two
orders of writing give requests that are equal up to the order of members. Something is in the way
of either write in the request exactly when it is there after the other write.

**Proof sketch.** Both paths follow the spec, so they part from each other (`Coherent.diverge`), and
writes along paths that part commute (`writeAlong_comm`). Neither changes what is in the way of the
other (`Diverge.blocked_writeAlong_iff`). -/
theorem write_write_alike (request : Members) (value value' : Option Json) :
    (Json.object (t'.write value' (t.write value request))).Alike
      (.object (t.write value (t'.write value' request))) ∧
    (Blocked (.object (t'.write value' request)) t.keys ↔ Blocked (.object request) t.keys) ∧
    (Blocked (.object (t.write value request)) t'.keys ↔ Blocked (.object request) t'.keys) := by
  refine ⟨?_, blocked_write_iff h h' hkeys hkeys' request value',
    blocked_write_iff h' h hkeys' hkeys request value⟩
  cases value with
  | none => exact .refl _
  | some value =>
    cases value' with
    | none => exact .refl _
    | some value' =>
      have hne := (coherent_of_ofSegments h).1
      have hne' := (coherent_of_ofSegments h').1
      rw [object_write hne' .object, object_write hne .object, object_write hne .object,
        object_write hne' .object]
      exact writeAlong_comm (diverge_of_ofSegments h h' hkeys hkeys') value value' .object _

end Unrelated

/-- Writes into an item of an array and at the item behind it, where the request holds false in
place of the array: whichever comes first makes the array. -/
theorem write_write_alike_made_array :
    let spec := Json.object
      [("body", .object [("list", .array [.object [("a", .string "{x}")], .string "{y}"])])]
    let request : Members := [("body", .object [("list", .bool false)])]
    ∃ t t', ofSegments ["body", "list", "0", "a"] spec = .ok t ∧
      ofSegments ["body", "list", "1"] spec = .ok t' ∧
      (Json.object (t'.write (some (.string "y")) (t.write (some .null) request))).Alike
        (.object (t.write (some .null) (t'.write (some (.string "y")) request))) := by
  intro spec request
  obtain ⟨t, h, hkeys⟩ : ∃ t, ofSegments ["body", "list", "0", "a"] spec = .ok t ∧
    t.keys = [.field "body", .field "list", .index 0, .field "a"] := ⟨_, rfl, rfl⟩
  obtain ⟨t', h', hkeys'⟩ : ∃ t, ofSegments ["body", "list", "1"] spec = .ok t ∧
    t.keys = [.field "body", .field "list", .index 1] := ⟨_, rfl, rfl⟩
  exact ⟨t, t', h, h', (write_write_alike h h' (by rw [hkeys, hkeys']; decide)
    (by rw [hkeys, hkeys']; decide) request (some .null) (some (.string "y"))).1⟩

end Target

end Remap.Request
