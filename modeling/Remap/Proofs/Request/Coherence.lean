import Remap.Proofs.Request.Writing

set_option relaxedAutoImplicit false
set_option autoImplicit false

/-!
# Steps that follow a spec

The steps of a target follow the spec it was compiled against: its positions are those of items of
the spec, anywhere else it goes by names, and the containers it makes are of the kind that the spec
holds there. Nothing looks at the spec again when a value is written. What makes up for it is that a
container made on the way always has room for the key that comes next: a position comes next only
where the spec holds an array, and there an array is made.

## Main definitions

* `Remap.Request.Coherent` — steps that follow a spec.

## Main results

* `Remap.Request.coherent_of_ofSegments` — the steps of a target follow the spec.
* `Remap.Request.Coherent.not_blocks_opened` — a container made on the way is not in the way.
* `Remap.Request.Coherent.diverge` — paths that follow one spec part from each other, unless the
  keys of one are the first keys of the other.
-/

namespace Remap.Request

open Json (Key)
open Target (writeAlong)

/-- `Coherent spec steps` says that the steps follow what the spec holds from a place on. Where it
holds an array, the key is the position of one of the items; anywhere else the key is a name, also
where the spec holds nothing under it. The container of the step is that of what the spec holds at
the key. -/
inductive Coherent : Option Json → List Step → Prop
  | nil (spec : Option Json) : Coherent spec []
  | item {items : List Json} {position : Nat} {item : Json} {rest : List Step}
      (hitem : items[position]? = some item) (hrest : Coherent (some item) rest) :
      Coherent (some (.array items)) (itemStep position item :: rest)
  | member {spec : Option Json} {name : String} {rest : List Step}
      (hspec : ∀ items, spec ≠ some (.array items))
      (hrest : Coherent (spec.bind (·.at? (.field name))) rest) :
      Coherent spec (⟨.field name, Container.ofSpec (spec.bind (·.at? (.field name)))⟩ :: rest)

/-! ## The steps of a target -/

/-- The steps of segments follow the spec.

**Proof sketch.** Induction on the segments. Where the spec holds an array, the key of a segment is
the position of an item; elsewhere it is a name. -/
theorem coherent_of_stepsOf {spec : Option Json} {segments : List String} {steps : List Step}
    (h : Target.stepsOf spec segments = .ok steps) : Coherent spec steps := by
  induction segments generalizing spec steps with
  | nil =>
    obtain rfl := Except.ok.inj h
    exact .nil spec
  | cons segment rest ih =>
    obtain ⟨key, others, hkey, hothers, rfl⟩ := Target.stepsOf_cons_eq_ok_iff.1 h
    by_cases hspec : ∃ items, spec = some (.array items)
    · obtain ⟨items, rfl⟩ := hspec
      obtain ⟨-, position, -, hlt, rfl⟩ := Target.keyOf_array_eq_ok_iff.1 hkey
      have hitem := List.getElem?_eq_getElem hlt
      have hchild : (some (Json.array items)).bind (·.at? (.index position.toNat)) =
        some items[position.toNat] := hitem
      rw [hchild] at hothers ⊢
      exact .item hitem (ih hothers)
    · rw [not_exists] at hspec
      obtain ⟨-, rfl⟩ := (Target.keyOf_eq_ok_iff hspec).1 hkey
      exact .member hspec (ih hothers)

/-- **A target has steps, and they follow the spec.** -/
theorem coherent_of_ofSegments {segments : List String} {spec : Json} {t : Target}
    (h : Target.ofSegments segments spec = .ok t) :
    t.steps ≠ [] ∧ Coherent (some spec) t.steps := by
  obtain ⟨hne, -, hsteps⟩ := Target.ofSegments_eq_ok_iff.1 h
  refine ⟨?_, coherent_of_stepsOf hsteps⟩
  obtain ⟨segment, rest, rfl⟩ := List.exists_cons_of_ne_nil hne
  obtain ⟨key, others, -, -, heq⟩ := Target.stepsOf_cons_eq_ok_iff.1 hsteps
  rw [heq]
  exact List.cons_ne_nil _ _

namespace Coherent

variable {spec : Option Json} {step : Step} {rest : List Step}

/-! ## Step by step -/

/-- The further steps follow what the spec holds at the key. -/
theorem tail (h : Coherent spec (step :: rest)) :
    Coherent (spec.bind (·.at? step.key)) rest := by
  cases h with
  | item hitem hrest =>
    rw [← hitem] at hrest
    exact hrest
  | member _ hrest => exact hrest

/-- The container is that of what the spec holds at the key. -/
theorem container_eq (h : Coherent spec (step :: rest)) :
    step.container = Container.ofSpec (spec.bind (·.at? step.key)) := by
  cases h with
  | item hitem _ => exact congrArg Container.ofSpec hitem.symm
  | member => rfl

/-- The last steps follow what the spec holds where they start. -/
theorem append_right {front : List Step} (h : Coherent spec (front ++ rest)) :
    Coherent (spec.bind (·.atPath? (front.map Step.key))) rest := by
  induction front generalizing spec with
  | nil => cases spec <;> exact h
  | cons step front ih =>
    have htail := ih (tail h)
    rwa [Option.bind_assoc] at htail

/-- A position is that of an item of the spec. -/
theorem exists_of_index {position : Nat} (h : Coherent spec (step :: rest))
    (hkey : step.key = .index position) :
    ∃ items, spec = some (.array items) ∧ position < items.length := by
  cases h with
  | item hitem =>
    obtain rfl := Key.index.inj hkey
    exact ⟨_, rfl, (List.getElem?_eq_some_iff.1 hitem).1⟩
  | member => simp at hkey

/-! ## Containers made on the way -/

/-- The container that the spec asks for has room for the key. -/
theorem not_blocks_empty (h : Coherent spec (step :: rest)) :
    ¬Blocks (Container.ofSpec spec).empty step.key := by
  cases h with
  | @item items position item _ _ _ =>
    intro hblocks
    obtain ⟨name, hname⟩ := blocks_array_iff.1 hblocks
    simp [itemStep] at hname
  | member hspec =>
    rw [Container.ofSpec_eq_object hspec]
    exact not_blocks_object [] _

/-- **A container made on the way is not in the way**: what is in the way once the slot is opened
was in the way before. -/
theorem not_blocks_opened (h : Coherent spec (step :: rest)) {old : Json}
    (hold : ¬Blocks old step.key) : ¬Blocks (opened (Container.ofSpec spec) old) step.key := by
  cases hfalsy : old.isFalsy with
  | true =>
    rw [opened_of_isFalsy _ hfalsy]
    exact h.not_blocks_empty
  | false =>
    rw [opened_eq_self _ hfalsy]
    exact hold

/-- A write from a place on leaves the same in the way of the steps from there. -/
theorem blocks_writeAlong_iff (h : Coherent spec (step :: rest)) (value : Json) (other : Step)
    (others : List Step) (old : Json) :
    Blocks (writeAlong value (Container.ofSpec spec) (other :: others) old) step.key ↔
      Blocks old step.key := by
  rw [Request.blocks_writeAlong_iff]
  constructor
  · exact fun hslot => not_not.1 fun hold => h.not_blocks_opened hold hslot
  · intro hold
    rw [opened_eq_self _ hold.isFalsy_eq]
    exact hold

/-! ## Two paths through one spec -/

/-- **Paths that follow one spec part from each other**, unless the keys of one are the first keys
of the other.

**Proof sketch.** Induction on the first path. Both paths are at the same place of the spec, so both
go on by a position, or both by a name. If the keys are the same, so are the containers, and the
paths go on from the same place; otherwise the keys are apart. -/
theorem diverge {path other : List Step} (h : Coherent spec path) (h' : Coherent spec other)
    (hpath : ¬path.map Step.key <+: other.map Step.key)
    (hother : ¬other.map Step.key <+: path.map Step.key) : Diverge path other := by
  induction h generalizing other with
  | nil => exact absurd List.nil_prefix hpath
  | @item items position item rest hitem hrest ih =>
    cases h' with
    | nil => exact absurd List.nil_prefix hother
    | @item _ position' item' rest' hitem' hrest' =>
      by_cases hposition : position = position'
      · subst hposition
        obtain rfl := Option.some.inj (hitem.symm.trans hitem')
        rw [List.map_cons, List.map_cons, List.prefix_cons_inj] at hpath hother
        exact .behind _ (ih hrest' hpath hother)
      · exact .apart (.index hposition) rest rest'
    | member hspec => exact absurd rfl (hspec items)
  | @member spec name rest hspec hrest ih =>
    cases h' with
    | nil => exact absurd List.nil_prefix hother
    | item => exact absurd rfl (hspec _)
    | @member _ name' rest' _ hrest' =>
      by_cases hname : name = name'
      · subst hname
        rw [List.map_cons, List.map_cons, List.prefix_cons_inj] at hpath hother
        exact .behind _ (ih hrest' hpath hother)
      · exact .apart (.field hname) rest rest'

end Coherent

end Remap.Request
