import Remap.Outcome
import Remap.Request.Target

set_option relaxedAutoImplicit false
set_option autoImplicit false

/-!
# The segments of a path against a spec

Segments lead into a spec: into an object by the name of a member, into an array by the index of an
item, however it is written, and nowhere from a scalar or from a place that the spec does not have.
What the spec holds where a segment stands decides whether the segment can be compiled and what step
it becomes; what it holds behind the segment decides which container the step makes. So the
container of a step always has room for the key of the next one.

## Main definitions

* `Remap.Request.childAt?`, `Remap.Request.reached` — what the spec holds behind a segment and
  behind several.
* `Remap.Request.SegmentFault`, `Remap.Request.Offends` — why a segment cannot be compiled.

## Main results

* `Remap.Request.Target.stepsOf_eq_error_iff` — segments fail for the first one that offends.
* `Remap.Request.Target.getElem?_stepsOf` — the key and the container of every step.
* `Remap.Request.Target.ofSegments_follows_spec` — when a path is a target, and of which steps.
-/

namespace Remap.Request

open Remap.Json (Key)

/-! ## Where segments lead -/

/-- What a value holds behind a segment: the item whose index the segment names, or the member of
that name. -/
def childAt? : Json → String → Option Json
  | .array items, segment => (Text.index? segment).bind fun position => items[position.toNat]?
  | .object members, segment => Members.get? members segment
  | _, _ => none

/-- What the spec holds behind the segments, from a place where it holds the given value. -/
def reached (spec : Option Json) : List String → Option Json
  | [] => spec
  | segment :: rest => reached (spec.bind (childAt? · segment)) rest

/-- The spec holds an array. -/
def HoldsArray (spec : Option Json) : Prop :=
  ∃ items, spec = some (.array items)

/-- A key that is a position. -/
def IsIndex (key : Key) : Prop :=
  ∃ position, key = .index position

/-- An array is made exactly where the spec holds one. -/
theorem Container.ofSpec_eq_array_iff {spec : Option Json} :
    Container.ofSpec spec = .array ↔ HoldsArray spec := by
  constructor
  · intro h
    by_cases hspec : HoldsArray spec
    · exact hspec
    · rw [ofSpec_eq_object fun items hitems => hspec ⟨items, hitems⟩] at h
      simp at h
  · rintro ⟨items, rfl⟩
    rfl

/-! ## Segments that cannot be compiled -/

/-- `SegmentFault spec segment reason` says why a segment cannot be compiled where the spec holds
the given value: it is empty, or the spec holds an array and the segment is no index, or not the
index of one of the items. -/
inductive SegmentFault : Option Json → String → PathError → Prop
  | empty (spec : Option Json) : SegmentFault spec "" .emptySegment
  | notAnIndex {segment : String} (items : List Json) (hne : segment ≠ "")
      (hindex : Text.index? segment = none) :
      SegmentFault (some (.array items)) segment (.notAnIndex segment)
  | outOfRange {segment : String} {items : List Json} {position : UInt64} (hne : segment ≠ "")
      (hindex : Text.index? segment = some position) (hrange : items.length ≤ position.toNat) :
      SegmentFault (some (.array items)) segment (.outOfRange position.toNat items.length)

/-- `Offends spec segments i reason` says why the segment at the place `i` cannot be compiled, by
what the spec holds behind the segments before it. -/
def Offends (spec : Option Json) (segments : List String) (i : Nat) (reason : PathError) : Prop :=
  ∃ segment, segments[i]? = some segment ∧
    SegmentFault (reached spec (segments.take i)) segment reason

/-- The first segment is judged by what the spec holds at the start. -/
@[simp]
theorem offends_zero {spec : Option Json} {segment : String} {rest : List String}
    {reason : PathError} :
    Offends spec (segment :: rest) 0 reason ↔ SegmentFault spec segment reason := by
  simp [Offends, reached]

/-- The further segments are judged by what the spec holds behind the first one. -/
@[simp]
theorem offends_succ {spec : Option Json} {segment : String} {rest : List String} {i : Nat}
    {reason : PathError} :
    Offends spec (segment :: rest) (i + 1) reason ↔
      Offends (spec.bind (childAt? · segment)) rest i reason := by
  simp [Offends, reached]

/-- Where there are no segments, none offends. -/
theorem not_offends_nil (spec : Option Json) (i : Nat) (reason : PathError) :
    ¬Offends spec [] i reason := by
  simp [Offends]

namespace Target

/-! ## One segment -/

/-- **A segment fails exactly for what is wrong with it.**

**Proof sketch.** By the tests of the segment, one after the other; each constructor of the fault is
one way to fail them. -/
theorem keyOf_eq_error_iff {spec : Option Json} {segment : String} {reason : PathError} :
    keyOf spec segment = .error reason ↔ SegmentFault spec segment reason := by
  constructor
  · intro h
    by_cases hempty : segment = ""
    · subst hempty
      obtain rfl := Except.error.inj h
      exact .empty spec
    by_cases hspec : ∃ items, spec = some (.array items)
    · obtain ⟨items, rfl⟩ := hspec
      simp only [keyOf, if_neg hempty] at h
      cases hindex : Text.index? segment with
      | none =>
        rw [hindex] at h
        obtain rfl := Except.error.inj h
        exact .notAnIndex items hempty hindex
      | some position =>
        simp only [hindex] at h
        by_cases hrange : position.toNat < items.length
        · simp [hrange] at h
        · rw [if_neg hrange] at h
          obtain rfl := Except.error.inj h
          exact .outOfRange hempty hindex (Nat.le_of_not_lt hrange)
    · rw [(keyOf_eq_ok_iff (not_exists.1 hspec)).2 ⟨hempty, rfl⟩] at h
      simp at h
  · intro h
    cases h with
    | empty => rfl
    | notAnIndex items hne hindex => simp only [keyOf, if_neg hne, hindex]
    | outOfRange hne hindex hrange =>
      simp only [keyOf, if_neg hne, hindex, if_neg (Nat.not_lt.2 hrange)]

/-- A segment is compiled where it is not empty and, in an array, names the index of an item. -/
theorem exists_keyOf_iff {spec : Option Json} {segment : String} :
    (∃ key, keyOf spec segment = .ok key) ↔ segment ≠ "" ∧ ∀ items, spec = some (.array items) →
      ∃ position, Text.index? segment = some position ∧ position.toNat < items.length := by
  by_cases hspec : ∃ items, spec = some (.array items)
  · obtain ⟨items, rfl⟩ := hspec
    simp only [keyOf_array_eq_ok_iff, Option.some.injEq, Json.array.injEq, forall_eq']
    constructor
    · rintro ⟨key, hne, position, hindex, hrange, -⟩
      exact ⟨hne, position, hindex, hrange⟩
    · rintro ⟨hne, position, hindex, hrange⟩
      exact ⟨_, hne, position, hindex, hrange, rfl⟩
  · rw [not_exists] at hspec
    simp only [keyOf_eq_ok_iff hspec, exists_and_left, exists_eq, and_true]
    exact ⟨fun hne => ⟨hne, fun items hitems => absurd hitems (hspec items)⟩, And.left⟩

/-- The key of a segment is a position exactly where the spec holds an array. -/
theorem isIndex_iff_of_keyOf {spec : Option Json} {segment : String} {key : Key}
    (h : keyOf spec segment = .ok key) : IsIndex key ↔ HoldsArray spec := by
  by_cases hspec : ∃ items, spec = some (.array items)
  · obtain ⟨items, rfl⟩ := hspec
    obtain ⟨-, position, -, -, rfl⟩ := keyOf_array_eq_ok_iff.1 h
    exact ⟨fun _ => ⟨items, rfl⟩, fun _ => ⟨position.toNat, rfl⟩⟩
  · rw [not_exists] at hspec
    obtain ⟨-, rfl⟩ := (keyOf_eq_ok_iff hspec).1 h
    constructor
    · rintro ⟨position, hkey⟩
      simp at hkey
    · rintro ⟨items, hitems⟩
      exact absurd hitems (hspec items)

/-- The key of a segment leads where the segment leads. -/
theorem at?_of_keyOf {spec : Option Json} {segment : String} {key : Key}
    (h : keyOf spec segment = .ok key) :
    spec.bind (·.at? key) = spec.bind (childAt? · segment) := by
  cases spec with
  | none => rfl
  | some value =>
    rw [Option.bind_some, Option.bind_some]
    cases value with
    | array items =>
      obtain ⟨-, position, hindex, -, rfl⟩ := keyOf_array_eq_ok_iff.1 h
      rw [childAt?, hindex]
      rfl
    | _ =>
      obtain ⟨-, rfl⟩ := (keyOf_eq_ok_iff (by simp)).1 h
      rfl

/-- The steps of segments are that of the first one and those of the others from where it leads. -/
theorem stepsOf_cons_eq_ok_iff_childAt? {spec : Option Json} {segment : String}
    {rest : List String} {steps : List Step} :
    stepsOf spec (segment :: rest) = .ok steps ↔ ∃ key others, keyOf spec segment = .ok key ∧
      stepsOf (spec.bind (childAt? · segment)) rest = .ok others ∧
      steps = ⟨key, Container.ofSpec (spec.bind (childAt? · segment))⟩ :: others := by
  rw [stepsOf_cons_eq_ok_iff]
  refine exists_congr fun key => exists_congr fun others => and_congr_right fun hkey => ?_
  rw [at?_of_keyOf hkey]

/-! ## All segments -/

/-- **Segments fail for the first one that offends.**

**Proof sketch.** Induction on the segments: the first one is judged by what the spec holds at the
start, and the others by what it holds where the first one leads. -/
theorem stepsOf_eq_error_iff {spec : Option Json} {segments : List String} {reason : PathError} :
    stepsOf spec segments = .error reason ↔ ∃ i, Offends spec segments i reason ∧
      ∀ j < i, ∀ reason', ¬Offends spec segments j reason' := by
  induction segments generalizing spec with
  | nil => simp [stepsOf, not_offends_nil]
  | cons segment rest ih =>
    rw [stepsOf]
    cases hkey : keyOf spec segment with
    | error first =>
      have hfirst := keyOf_eq_error_iff.1 hkey
      constructor
      · intro h
        obtain rfl := Except.error.inj h
        exact ⟨0, offends_zero.2 hfirst, fun j hj => absurd hj (Nat.not_lt_zero j)⟩
      · rintro ⟨i, hi, hbefore⟩
        cases i with
        | zero => rw [← hkey, keyOf_eq_error_iff.2 (offends_zero.1 hi)]
        | succ i => exact absurd (offends_zero.2 hfirst) (hbefore 0 (Nat.succ_pos i) first)
    | ok key =>
      have hfirst : ∀ reason', ¬Offends spec (segment :: rest) 0 reason' := by
        intro reason' h
        rw [keyOf_eq_error_iff.2 (offends_zero.1 h)] at hkey
        simp at hkey
      simp only [map_eq_error_iff, at?_of_keyOf hkey, ih]
      constructor
      · rintro ⟨i, hi, hbefore⟩
        refine ⟨i + 1, offends_succ.2 hi, fun j hj => ?_⟩
        cases j with
        | zero => exact hfirst
        | succ j =>
          exact fun reason' h =>
            hbefore j (Nat.lt_of_succ_lt_succ hj) reason' (offends_succ.1 h)
      · rintro ⟨i, hi, hbefore⟩
        cases i with
        | zero => exact absurd hi (hfirst reason)
        | succ i =>
          exact ⟨i, offends_succ.1 hi, fun j hj reason' h =>
            hbefore (j + 1) (Nat.succ_lt_succ hj) reason' (offends_succ.2 h)⟩

/-- Segments are compiled where each of them is, by what the spec holds behind those before it. -/
theorem exists_stepsOf_iff {spec : Option Json} {segments : List String} :
    (∃ steps, stepsOf spec segments = .ok steps) ↔
      ∀ i segment, segments[i]? = some segment →
        ∃ key, keyOf (reached spec (segments.take i)) segment = .ok key := by
  induction segments generalizing spec with
  | nil => simp [stepsOf]
  | cons segment rest ih =>
    constructor
    · rintro ⟨steps, hsteps⟩ i wanted hwanted
      obtain ⟨key, others, hkey, hothers, -⟩ := stepsOf_cons_eq_ok_iff_childAt?.1 hsteps
      cases i with
      | zero =>
        obtain rfl := Option.some.inj hwanted
        exact ⟨key, hkey⟩
      | succ i => exact ih.1 ⟨others, hothers⟩ i wanted hwanted
    · intro h
      obtain ⟨key, hkey⟩ := h 0 segment rfl
      obtain ⟨others, hothers⟩ := ih.2 fun i wanted hwanted => h (i + 1) wanted hwanted
      exact ⟨_, stepsOf_cons_eq_ok_iff_childAt?.2 ⟨key, others, hkey, hothers, rfl⟩⟩

/-- There is one step for each segment. -/
theorem length_stepsOf {spec : Option Json} {segments : List String} {steps : List Step}
    (h : stepsOf spec segments = .ok steps) : steps.length = segments.length := by
  induction segments generalizing spec steps with
  | nil =>
    obtain rfl := Except.ok.inj h
    rfl
  | cons segment rest ih =>
    obtain ⟨key, others, -, hothers, rfl⟩ := stepsOf_cons_eq_ok_iff.1 h
    rw [List.length_cons, List.length_cons, ih hothers]

/-- **Every step follows the spec**: its key is a position where the spec holds an array behind the
segments before it, and its container is an array where the spec holds one behind its own segment,
too. -/
theorem getElem?_stepsOf {spec : Option Json} {segments : List String} {steps : List Step}
    (h : stepsOf spec segments = .ok steps) {i : Nat} {step : Step}
    (hstep : steps[i]? = some step) :
    (IsIndex step.key ↔ HoldsArray (reached spec (segments.take i))) ∧
      (step.container = .array ↔ HoldsArray (reached spec (segments.take (i + 1)))) := by
  induction segments generalizing spec steps i with
  | nil =>
    obtain rfl := Except.ok.inj h
    simp at hstep
  | cons segment rest ih =>
    obtain ⟨key, others, hkey, hothers, rfl⟩ := stepsOf_cons_eq_ok_iff_childAt?.1 h
    cases i with
    | zero =>
      obtain rfl := Option.some.inj hstep
      exact ⟨isIndex_iff_of_keyOf hkey, Container.ofSpec_eq_array_iff⟩
    | succ i => exact ih hothers hstep

/-! ## Targets -/

/-- Segments are no target if there are none, or for the fault of the first one that offends. -/
theorem ofSegments_eq_error_iff {segments : List String} {spec : Json} {error : TemplateError} :
    ofSegments segments spec = .error error ↔ ∃ reason,
      error = .invalidPath (Text.dotted segments) reason ∧
      (segments = [] ∧ reason = .emptyPath ∨
        segments ≠ [] ∧ stepsOf (some spec) segments = .error reason) := by
  by_cases hne : segments = []
  · subst hne
    simp [ofSegments_nil, eq_comm]
  · rw [ofSegments_of_ne_nil hne]
    cases stepsOf (some spec) segments with
    | ok steps => simp [hne]
    | error reason => simp [hne, eq_comm]

/-- **A target follows the spec that it was compiled against.** Take any spec and any segments.

* They are a target exactly where there are segments, none of them is empty, and every segment names
  the index of an item where the spec holds an array behind those before it. Behind a missing member
  or a scalar nothing else is asked.
* They fail with their dotted path and the reason of the first segment that offends, or because
  there are none.
* The target has a step for each segment. The key of a step is a position exactly where the spec
  holds an array behind the segments before it, and its container is an array exactly where the spec
  holds one behind its own segment, too. So it is an array exactly where the next key is a position.

**Proof sketch.** All by induction on the segments, since a segment leads where its key leads
(`at?_of_keyOf`). The container of a step and the key of the next one go by the same value of the
spec. -/
theorem ofSegments_follows_spec (spec : Json) (segments : List String) :
    ((∃ t, ofSegments segments spec = .ok t) ↔ segments ≠ [] ∧
      ∀ i segment, segments[i]? = some segment → segment ≠ "" ∧
        ∀ items, reached (some spec) (segments.take i) = some (.array items) →
          ∃ position, Text.index? segment = some position ∧ position.toNat < items.length) ∧
    (∀ error, ofSegments segments spec = .error error ↔ ∃ reason,
      error = .invalidPath (Text.dotted segments) reason ∧
      (segments = [] ∧ reason = .emptyPath ∨
        ∃ i, Offends (some spec) segments i reason ∧
          ∀ j < i, ∀ reason', ¬Offends (some spec) segments j reason')) ∧
    ∀ t, ofSegments segments spec = .ok t → t.steps.length = segments.length ∧
      ∀ i step, t.steps[i]? = some step →
        (IsIndex step.key ↔ HoldsArray (reached (some spec) (segments.take i))) ∧
        (step.container = .array ↔ HoldsArray (reached (some spec) (segments.take (i + 1)))) ∧
        ∀ next, t.steps[i + 1]? = some next → (step.container = .array ↔ IsIndex next.key) := by
  refine ⟨?_, fun error => ?_, fun t ht => ?_⟩
  · simp only [← exists_keyOf_iff, ← exists_stepsOf_iff, ofSegments_eq_ok_iff]
    constructor
    · rintro ⟨t, hne, -, hsteps⟩
      exact ⟨hne, t.steps, hsteps⟩
    · rintro ⟨hne, steps, hsteps⟩
      exact ⟨⟨Text.dotted segments, steps⟩, hne, rfl, hsteps⟩
  · rw [ofSegments_eq_error_iff]
    refine exists_congr fun reason => and_congr_right fun _ => or_congr_right ?_
    rw [stepsOf_eq_error_iff]
    constructor
    · exact And.right
    · rintro ⟨i, hi, hbefore⟩
      refine ⟨?_, i, hi, hbefore⟩
      rintro rfl
      exact not_offends_nil _ _ _ hi
  · obtain ⟨-, -, hsteps⟩ := ofSegments_eq_ok_iff.1 ht
    refine ⟨length_stepsOf hsteps, fun i step hstep => ?_⟩
    obtain ⟨hkey, hcontainer⟩ := getElem?_stepsOf hsteps hstep
    refine ⟨hkey, hcontainer, fun next hnext => ?_⟩
    rw [hcontainer, (getElem?_stepsOf hsteps hnext).1]

/-- An index with a plus sign and a leading zero; and one behind the end of the array, before an
empty segment. -/
theorem ofSegments_follows_spec_plus_sign :
    let spec := Json.object [("body", .object [("list", .array [.null, .object []])])]
    let t : Target := ⟨"body.list.+01.a", [⟨.field "body", .object⟩, ⟨.field "list", .array⟩,
      ⟨.index 1, .object⟩, ⟨.field "a", .object⟩]⟩
    ofSegments ["body", "list", "+01", "a"] spec = .ok t ∧
      (∃ position, Text.index? "+01" = some position ∧ position.toNat < 2) ∧
      (IsIndex (.index 1) ↔ HoldsArray (reached (some spec) ["body", "list"])) ∧
      ofSegments ["body", "list", "02", ""] spec =
        .error (.invalidPath "body.list.02." (.outOfRange 2 2)) := by
  intro spec t
  have htarget : ofSegments ["body", "list", "+01", "a"] spec = .ok t := rfl
  obtain ⟨hsuccess, -, hsteps⟩ := ofSegments_follows_spec spec ["body", "list", "+01", "a"]
  have hsegment := ((hsuccess.1 ⟨t, htarget⟩).2 2 "+01" rfl).2 [.null, .object []] rfl
  have hkey := ((hsteps t htarget).2 2 ⟨.index 1, .object⟩ rfl).1
  obtain ⟨-, hfailure, -⟩ := ofSegments_follows_spec spec ["body", "list", "02", ""]
  refine ⟨htarget, hsegment, hkey, (hfailure _).2 ⟨.outOfRange 2 2, rfl, .inr ⟨2, ?_, ?_⟩⟩⟩
  · have hindex : Text.index? "02" = some 2 := rfl
    exact ⟨"02", rfl, .outOfRange (by decide) hindex (by decide)⟩
  · rintro j hj reason ⟨segment, hsegment, hfault⟩
    -- Neither of the first two segments is empty, and the spec holds objects there.
    have herror := keyOf_eq_error_iff.2 hfault
    obtain rfl | rfl : j = 0 ∨ j = 1 := by omega
    · obtain rfl := Option.some.inj hsegment
      have hkey : Except.error reason = .ok (Key.field "body") := herror.symm
      simp at hkey
    · obtain rfl := Option.some.inj hsegment
      have hkey : Except.error reason = .ok (Key.field "list") := herror.symm
      simp at hkey

end Target

end Remap.Request
