import Remap.Json.Path
import Remap.Outcome
import Remap.Request.Error
import Remap.Text.Dotted

set_option relaxedAutoImplicit false
set_option autoImplicit false

/-!
# Targets

A target is a place in the outgoing request, compiled once from a path and the spec. The spec says
which steps of the path are positions in arrays, and what kind of container to make where one is
missing.

## Main definitions

* `Remap.Request.Target` — a compiled path.
* `Remap.Request.Target.ofSegments`, `Remap.Request.Target.ofPath` — the target of a path.
* `Remap.Request.Target.write` — writing a value at a target.

## Main results

* `Remap.Request.Target.keyOf_array_eq_ok_iff`, `Remap.Request.Target.keyOf_eq_ok_iff` — what key a
  segment is, by what the spec holds there.
* `Remap.Request.Target.stepsOf_cons_eq_ok_iff`, `Remap.Request.Target.ofSegments_eq_ok_iff` — the
  steps of segments, and their target.
-/

namespace Remap.Request

open Remap.Json (Key)

/-- The kinds of containers. -/
inductive Container where
  | object
  | array
  deriving DecidableEq, Repr

namespace Container

/-- The container of a kind with nothing in it. -/
def empty : Container → Json
  | .object => .object []
  | .array => .array []

/-- The kind to make at a place where the spec holds the given value, if any: an array where the
spec holds one, and otherwise an object. -/
def ofSpec : Option Json → Container
  | some (.array _) => .array
  | _ => .object

/-- Where the spec holds no array, an object is made. -/
theorem ofSpec_eq_object {spec : Option Json} (h : ∀ items, spec ≠ some (.array items)) :
    ofSpec spec = .object := by
  cases spec with
  | none => rfl
  | some value =>
    cases value with
    | array items => exact absurd rfl (h items)
    | _ => rfl

end Container

/-- One step of a target. -/
structure Step where
  key : Key
  /-- What to make at the place of the key when a further step needs a container there. -/
  container : Container
  deriving DecidableEq, Repr

/-- A place in the outgoing request. -/
structure Target where
  /-- The segments of the path joined by dots. -/
  path : String
  steps : List Step
  deriving DecidableEq, Repr

namespace Target

/-- The key that a segment stands for where the spec holds the given value: a position within the
array if the spec holds an array, and a member name otherwise. -/
def keyOf (spec : Option Json) (segment : String) : Except PathError Key :=
  if segment = "" then .error .emptySegment
  else
    match spec with
    | some (.array items) =>
      match Text.index? segment with
      | none => .error (.notAnIndex segment)
      | some position =>
        if position.toNat < items.length then .ok (.index position.toNat)
        else .error (.outOfRange position.toNat items.length)
    | _ => .ok (.field segment)

/-- Where the spec holds an array, a segment is the position of one of its items. -/
theorem keyOf_array_eq_ok_iff {items : List Json} {segment : String} {key : Key} :
    keyOf (some (.array items)) segment = .ok key ↔ segment ≠ "" ∧
      ∃ position, Text.index? segment = some position ∧ position.toNat < items.length ∧
        key = .index position.toNat := by
  by_cases hempty : segment = ""
  · simp [keyOf, hempty]
  · cases hindex : Text.index? segment with
    | none => simp [keyOf, hempty, hindex]
    | some position =>
      by_cases hlt : position.toNat < items.length
      · simp [keyOf, hempty, hindex, hlt, eq_comm]
      · simp [keyOf, hempty, hindex, hlt]

/-- Where the spec holds no array, a segment is a name. -/
theorem keyOf_eq_ok_iff {spec : Option Json} (hspec : ∀ items, spec ≠ some (.array items))
    {segment : String} {key : Key} :
    keyOf spec segment = .ok key ↔ segment ≠ "" ∧ key = .field segment := by
  by_cases hempty : segment = ""
  · simp [keyOf, hempty]
  · rw [keyOf, if_neg hempty]
    · simp [hempty, eq_comm]
    · exact hspec

/-- The steps of the segments from a place where the spec holds the given value. -/
def stepsOf (spec : Option Json) : List String → Except PathError (List Step)
  | [] => .ok []
  | segment :: rest =>
    match keyOf spec segment with
    | .error error => .error error
    | .ok key =>
      let child := spec.bind (·.at? key)
      (stepsOf child rest).map (⟨key, Container.ofSpec child⟩ :: ·)

/-- The steps of segments are that of the first one and those of the others from where its key
leads. -/
theorem stepsOf_cons_eq_ok_iff {spec : Option Json} {segment : String} {rest : List String}
    {steps : List Step} :
    stepsOf spec (segment :: rest) = .ok steps ↔ ∃ key others, keyOf spec segment = .ok key ∧
      stepsOf (spec.bind (·.at? key)) rest = .ok others ∧
      steps = ⟨key, Container.ofSpec (spec.bind (·.at? key))⟩ :: others := by
  rw [stepsOf]
  cases keyOf spec segment with
  | error reason => simp
  | ok key => simp [map_eq_ok_iff, @eq_comm _ steps]

/-- The target of a list of segments in a request with the given spec. -/
def ofSegments (segments : List String) (spec : Json) : Except TemplateError Target :=
  let path := Text.dotted segments
  match segments with
  | [] => .error (.invalidPath path .emptyPath)
  | _ =>
    match stepsOf (some spec) segments with
    | .ok steps => .ok ⟨path, steps⟩
    | .error reason => .error (.invalidPath path reason)

/-- A path without segments is no target. -/
theorem ofSegments_nil (spec : Json) :
    ofSegments [] spec = .error (.invalidPath (Text.dotted []) .emptyPath) := rfl

/-- The target of segments has their steps. -/
theorem ofSegments_of_ne_nil {segments : List String} (hne : segments ≠ []) (spec : Json) :
    ofSegments segments spec =
      match stepsOf (some spec) segments with
      | .ok steps => .ok ⟨Text.dotted segments, steps⟩
      | .error reason => .error (.invalidPath (Text.dotted segments) reason) := by
  obtain ⟨segment, rest, rfl⟩ := List.exists_cons_of_ne_nil hne
  rfl

/-- A target is made of segments, as soon as there are any, and has their steps. -/
theorem ofSegments_eq_ok_iff {segments : List String} {spec : Json} {t : Target} :
    ofSegments segments spec = .ok t ↔ segments ≠ [] ∧ t.path = Text.dotted segments ∧
      stepsOf (some spec) segments = .ok t.steps := by
  by_cases hne : segments = []
  · subst hne
    simp [ofSegments_nil]
  · obtain ⟨path, steps⟩ := t
    rw [ofSegments_of_ne_nil hne]
    cases stepsOf (some spec) segments with
    | ok steps' => simp [hne, eq_comm]
    | error reason => simp

/-- The target of a dotted path in a request with the given spec. -/
def ofPath (path : String) (spec : Json) : Except TemplateError Target :=
  ofSegments (Text.undotted path) spec

/-- The keys of a target. -/
def keys (t : Target) : List Key :=
  t.steps.map Step.key

/-- The value that results from writing along the steps where there was an old value. A falsy value
in the way becomes a container of the given kind, a missing one is made; any other value in the way
stays, and the write is dropped. -/
def writeAlong (value : Json) : Container → List Step → Json → Json
  | _, [], _ => value
  | container, step :: rest, old =>
    match (if old.isFalsy then container.empty else old), step.key with
    | .object members, key =>
      .object (Members.update members key.name (writeAlong value step.container rest))
    | .array items, .index position =>
      .array (Json.updateItem items position (writeAlong value step.container rest))
    | blocked, _ => blocked

/-- Writes a value, if there is one, at the target. -/
def write (t : Target) (value : Option Json) (request : Members) : Members :=
  match value, t.steps with
  | some value, step :: rest =>
    Members.update request step.key.name (writeAlong value step.container rest)
  | _, _ => request

/-- Without a value nothing changes. -/
@[simp]
theorem write_none (t : Target) (request : Members) : t.write none request = request := rfl

end Target

end Remap.Request
