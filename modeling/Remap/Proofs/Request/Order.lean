import Remap.Proofs.Request.Evaluation
import Remap.Proofs.Request.Writing

set_option relaxedAutoImplicit false
set_option autoImplicit false

/-!
# The order of assignments

The assignments of a template go to the leaves of its spec and to the names of the method and the
URI. The paths of two of them part: at the names of their parts, at two members of one object, or at
two items of one array. So the assignments may run in any order; only the order of members depends
on it.

## Main results

* `Remap.Request.pairwise_diverge_placedLeaves` — the paths of the leaves of a tree part.
* `Remap.Request.Template.pairwise_diverge_compileParts` — so do those of the assignments of a spec.
* `Remap.Request.Template.runAll_sameContent_evaluate` — the assignments may run in any order.
-/

namespace Remap.Request

open Json (SameContent)

/-! ## The leaves of a tree -/

/-- Paths part below a step where they part without it. -/
theorem pairwise_diverge_map_under (step : Step) {placed : List Placed}
    (h : placed.Pairwise fun p q => Diverge p.steps q.steps) :
    (placed.map (Placed.under step)).Pairwise fun p q => Diverge p.steps q.steps :=
  List.pairwise_map.2 (h.imp fun hpq => .behind step hpq)

/-- The paths of leaves of different members part at the names of the members. -/
theorem pairwise_diverge_placedMembers {members : Members} (hnames : members.keys.Nodup)
    (h : ∀ member ∈ members,
      (placedLeaves member.2).Pairwise fun p q => Diverge p.steps q.steps) :
    (placedMembers members).Pairwise fun p q => Diverge p.steps q.steps := by
  induction members with
  | nil => exact .nil
  | cons member rest ih =>
    obtain ⟨name, value⟩ := member
    rw [Members.keys, List.map_cons, List.nodup_cons] at hnames
    rw [List.forall_mem_cons] at h
    rw [placedMembers]
    refine List.pairwise_append.2
      ⟨pairwise_diverge_map_under _ h.1, ih hnames.2 h.2, fun p hp q hq => ?_⟩
    obtain ⟨p, -, rfl⟩ := List.mem_map.1 hp
    obtain ⟨name', value', hmember, q, -, rfl⟩ := mem_placedMembers.1 hq
    refine .apart (.field ?_) p.steps q.steps
    rintro rfl
    exact hnames.1 (List.mem_map.2 ⟨_, hmember, rfl⟩)

/-- The paths of leaves of different items part at the positions of the items. -/
theorem pairwise_diverge_placedItems {items : List Json}
    (h : ∀ item ∈ items, (placedLeaves item).Pairwise fun p q => Diverge p.steps q.steps)
    (start : Nat) :
    (placedItems start items).Pairwise fun p q => Diverge p.steps q.steps := by
  induction items generalizing start with
  | nil => exact .nil
  | cons item rest ih =>
    rw [List.forall_mem_cons] at h
    rw [placedItems]
    refine List.pairwise_append.2
      ⟨pairwise_diverge_map_under _ h.1, ih h.2 (start + 1), fun p hp q hq => ?_⟩
    obtain ⟨p, -, rfl⟩ := List.mem_map.1 hp
    obtain ⟨position, item', -, q, -, rfl⟩ := mem_placedItems.1 hq
    exact .apart (.index (by omega)) p.steps q.steps

/-- **The paths of the leaves of a tree part from each other.** -/
theorem pairwise_diverge_placedLeaves {value : Json} (h : value.WellFormed) :
    (placedLeaves value).Pairwise fun p q => Diverge p.steps q.steps := by
  induction h with
  | null | bool | number | string => exact List.pairwise_singleton _ _
  | array _ _ ih => exact pairwise_diverge_placedItems ih 0
  | object hnames _ ih => exact pairwise_diverge_placedMembers hnames ih

/-! ## The assignments of a spec -/

namespace Template

section Part

variable {compiler : Compiler} {parts : Members} {part : String} {value : Json}
  (hspec : (Json.object parts).WellFormed) (hpart : (part, value) ∈ parts)
  {assignments : List Assignment}
  (h : compilePart compiler (.object parts) part value = .ok assignments)

include hspec hpart h

/-- The path of every assignment of a part starts at the name of the part. -/
theorem exists_steps_of_mem_compilePart {a : Assignment} (ha : a ∈ assignments) :
    ∃ rest, a.target.steps = memberStep part value :: rest := by
  rcases compilePart_cases hspec hpart h .null with
    ⟨rfl, -⟩ | ⟨a', rfl, hsteps, -⟩ | ⟨-, hleaves, -⟩
  · simp at ha
  · obtain rfl := List.mem_singleton.1 ha
    exact ⟨[], hsteps⟩
  · obtain ⟨p, -, hsteps, -⟩ :=
      exists_mem_of_forall₂ (forall₂_of_compileLeaves hspec hpart hleaves .null) ha
    exact ⟨p.steps, hsteps⟩

/-- The paths of the assignments of one part part from each other, like those of its leaves. -/
theorem pairwise_diverge_compilePart :
    assignments.Pairwise fun a b => Diverge a.target.steps b.target.steps := by
  rcases compilePart_cases hspec hpart h .null with
    ⟨rfl, -⟩ | ⟨a, rfl, -, -⟩ | ⟨-, hleaves, -⟩
  · exact .nil
  · exact List.pairwise_singleton _ a
  · have hsteps : (placedLeaves value).map (fun p => memberStep part value :: p.steps) =
        assignments.map fun a => a.target.steps := by
      rw [← List.forall₂_eq_eq_eq, List.forall₂_map_left_iff, List.forall₂_map_right_iff]
      exact (forall₂_of_compileLeaves hspec hpart hleaves .null).imp fun p a hpa => hpa.1.symm
    have hvalue := (Json.wellFormed_object_iff.1 hspec).2 _ hpart
    have hpaths : (assignments.map fun a => a.target.steps).Pairwise Diverge := by
      rw [← hsteps]
      exact List.pairwise_map.2
        ((pairwise_diverge_placedLeaves hvalue).imp fun hpq => .behind _ hpq)
    exact List.pairwise_map.1 hpaths

end Part

/-- **The paths of the assignments of a spec part from each other**: those of one part as its leaves
do, those of different parts at the names of the parts.

**Proof sketch.** Induction on the parts. A path begins with the name of its part
(`exists_steps_of_mem_compilePart`), and the names of a spec are distinct. -/
theorem pairwise_diverge_compileParts {compiler : Compiler} {parts : Members}
    (hspec : (Json.object parts).WellFormed) {rest : Members} (hrest : rest ⊆ parts)
    (hnames : rest.keys.Nodup) {assignments : List Assignment}
    (h : compileParts compiler (.object parts) rest = .ok assignments) :
    assignments.Pairwise fun a b => Diverge a.target.steps b.target.steps := by
  induction rest generalizing assignments with
  | nil =>
    obtain rfl := Except.ok.inj h
    exact .nil
  | cons member rest ih =>
    obtain ⟨part, value⟩ := member
    rw [List.cons_subset] at hrest
    rw [Members.keys, List.map_cons, List.nodup_cons] at hnames
    obtain ⟨first, others, hfirst, hothers, rfl⟩ := compileParts_cons_eq_ok_iff.1 h
    refine List.pairwise_append.2 ⟨pairwise_diverge_compilePart hspec hrest.1 hfirst,
      ih hrest.2 hnames.2 hothers, fun a ha b hb => ?_⟩
    obtain ⟨path, hpath⟩ := exists_steps_of_mem_compilePart hspec hrest.1 hfirst ha
    obtain ⟨part', value', own, hmember, hown, hb⟩ := exists_of_mem_compileParts hothers hb
    obtain ⟨path', hpath'⟩ := exists_steps_of_mem_compilePart hspec (hrest.2 hmember) hown hb
    rw [hpath, hpath']
    refine .apart (.field ?_) path path'
    rintro rfl
    exact hnames.1 (List.mem_map.2 ⟨_, hmember, rfl⟩)

/-- Every assignment of a spec has a path. -/
theorem steps_ne_nil_of_mem_compileParts {compiler : Compiler} {parts : Members}
    (hspec : (Json.object parts).WellFormed) {assignments : List Assignment}
    (h : compileParts compiler (.object parts) parts = .ok assignments) {a : Assignment}
    (ha : a ∈ assignments) : a.target.steps ≠ [] := by
  obtain ⟨part, value, own, hpart, hown, ha⟩ := exists_of_mem_compileParts h ha
  obtain ⟨rest, hsteps⟩ := exists_steps_of_mem_compilePart hspec hpart hown ha
  simp [hsteps]

/-- **The assignments of a template may run in any order**: starting with the method of the incoming
request, they lead to the same request up to the order of members, for every compiler of
expressions, every spec that can be compiled, every context and every permutation.

**Proof sketch.** Running assignments is writing what they find (`object_runAll`). The paths of two
assignments part (`pairwise_diverge_compileParts`), so that their writes commute, whatever has been
written before (`fill_perm`). -/
theorem runAll_sameContent_evaluate {compiler : Compiler} {spec : Json} (hspec : spec.WellFormed)
    {t : Template} (h : compileWith compiler spec = .ok t) (context : Json)
    {assignments : List Assignment} (hperm : assignments.Perm t.assignments) :
    (Json.object (runAll assignments context (seed context))).SameContent
      (t.evaluate context) := by
  obtain ⟨parts, rfl, hparts⟩ := compileWith_eq_ok_iff.1 h
  have hnames := (Json.wellFormed_object_iff.1 hspec).1
  have hsteps : ∀ a ∈ t.assignments, a.target.steps ≠ [] :=
    fun a ha => steps_ne_nil_of_mem_compileParts hspec hparts ha
  have hpaths : assignments.Pairwise fun a b => Diverge a.target.steps b.target.steps :=
    (hperm.pairwise_iff Diverge.symm).2
      (pairwise_diverge_compileParts hspec (List.Subset.refl _) hnames hparts)
  rw [evaluate, object_runAll (fun a ha => hsteps a (hperm.mem_iff.1 ha)) context,
    object_runAll hsteps context]
  refine fill_perm (hperm.filterMap _) ?_ .object _
  -- What an assignment finds is written along its own path.
  refine hpaths.filterMap _ fun a b hab p hp q hq => ?_
  obtain ⟨v, -, rfl⟩ := Option.map_eq_some_iff.1 hp
  obtain ⟨w, -, rfl⟩ := Option.map_eq_some_iff.1 hq
  exact hab

/-- In reverse order an array is made from its last item on, and the later of two members first. -/
theorem runAll_sameContent_evaluate_reversed :
    let context := Json.object [("request", .object [("method", .string "GET")])]
    ∃ t : Template,
      compileWith (fun source => .ok fun _ =>
          if source = "m.request.body.id" then some (.object []) else none)
        (.object [("body", .object [
            ("list", .array [.object [("a.b", .string "{id}")], .string "{gone}", .string "x"]),
            ("0", .null)]),
          ("method", .string "PUT")]) = .ok t ∧
      runAll t.assignments.reverse context (seed context) =
        [("method", .string "PUT"), ("body", .object [("0", .null),
          ("list", .array [.object [("a.b", .object [])], .null, .string "x"])])] ∧
      (Json.object (runAll t.assignments.reverse context (seed context))).SameContent
        (t.evaluate context) := by
  intro context
  refine Exists.imp (fun t ht => ⟨ht, ?_, ?_⟩) ⟨_, rfl⟩
  · obtain rfl := Except.ok.inj ht
    rfl
  · exact runAll_sameContent_evaluate (by simp [Members.keys, UInt64.size]) ht context
      (List.reverse_perm t.assignments)

end Template

end Remap.Request
