import Remap.Proofs.Json.Nodes
import Remap.Proofs.Outcome
import Remap.Uri.Expansion

set_option relaxedAutoImplicit false
set_option autoImplicit false

/-!
# What variables are bound to

Whether a template can be expanded is decided variable by variable. A variable bound to an array or
an object can never be expanded, not even with a default value or as an optional segment. One that
is bound to another value takes its text, whatever the default is. One that is bound to null or to
nothing takes the default, and without a default only an optional segment can be left out. The first
variable that cannot be expanded decides the error, and nothing but the bindings of the variables is
read.

## Main definitions

* `Remap.Uri.Absent` — names that are bound to null or to nothing.
* `Remap.Uri.Variable.effective?` — the text that a variable stands for.
* `Remap.Uri.Variable.Fault` — why a variable cannot be expanded.
* `Remap.Uri.Part.text` — what a part contributes to a URI.

## Main results

* `Remap.Uri.Variable.binding_cases` — everything that a variable can be bound to.
* `Remap.Uri.Template.eq_of_expand_eq_ok` — the URI is made of the texts of the parts.
* `Remap.Uri.Template.expand_eq_error_iff` — the first faulty variable decides the error.
* `Remap.Uri.Template.expand_outcome` — when an expansion succeeds, and what it depends on.
-/

namespace Remap

/-- The text of a scalar. Null has none. -/
def Json.scalarText? : Json → Option String
  | .bool value => some (if value then "true" else "false")
  | .number value => some value.text
  | .string value => some value
  | _ => none

namespace Uri

/-- The name is bound to nothing, or to null. -/
def Absent (params : Json) (name : String) : Prop :=
  params.member? name = none ∨ params.member? name = some .null

/-- The text that a variable stands for: that of the scalar it is bound to, or else its default. -/
def Variable.effective? (v : Variable) (params : Json) : Option String :=
  ((params.member? v.name).bind Json.scalarText?).or v.fallback

/-- `v.Fault params e` says that the variable cannot be expanded: it is bound to an array or an
object, or it is bound to nothing or null while it has no default and is no optional segment. -/
inductive Variable.Fault (v : Variable) (params : Json) : ExpandError → Prop
  | notScalar {value : Json} (hvalue : params.member? v.name = some value)
      (hcontainer : value.isContainer = true) : Fault v params (.notScalar v.name)
  | missing (habsent : Absent params v.name) (hfallback : v.fallback = none)
      (hoperator : v.operator ≠ .segment) : Fault v params (.missing v.name)

/-- What a part contributes to a URI. The operator of a variable says whether its value stands there
percent-encoded, as it is or percent-encoded behind a slash; a variable that stands for no text
contributes nothing. -/
def Part.text (params : Json) : Part → List Char
  | .literal text => text.toList
  | .variable v =>
    match v.effective? params, v.operator with
    | some value, .simple => percentEncode value.toList
    | some value, .reserved => value.toList
    | some value, .segment => '/' :: percentEncode value.toList
    | none, _ => []

/-! ## One variable -/

/-- **Everything that a variable can be bound to**: nothing or null, a scalar with a text, or an
array or an object; and the value that it takes in each case. -/
theorem Variable.binding_cases (v : Variable) (params : Json) :
    (Absent params v.name ∧ v.effective? params = v.fallback ∧
      v.value? params = .ok v.fallback) ∨
    (∃ value text, params.member? v.name = some value ∧ value.scalarText? = some text ∧
      v.effective? params = some text ∧ v.value? params = .ok (some text)) ∨
    (∃ value, params.member? v.name = some value ∧ value.isContainer = true ∧
      v.value? params = .error (.notScalar v.name)) := by
  unfold effective? value? Absent
  cases params.member? v.name with
  | none => left; exact ⟨.inl rfl, rfl, rfl⟩
  | some value =>
    cases value with
    | null => left; exact ⟨.inr rfl, rfl, rfl⟩
    | bool value => right; left; exact ⟨_, _, rfl, rfl, rfl, rfl⟩
    | number value => right; left; exact ⟨_, _, rfl, rfl, rfl, rfl⟩
    | string text => right; left; exact ⟨_, _, rfl, rfl, rfl, rfl⟩
    | array items => right; right; exact ⟨_, rfl, rfl, rfl⟩
    | object members => right; right; exact ⟨_, rfl, rfl, rfl⟩

/-- What an absent name is bound to is null. -/
theorem Absent.eq_null {params value : Json} {name : String} (h : Absent params name)
    (hvalue : params.member? name = some value) : value = .null := by
  rcases h with hnone | hnull
  · rw [hvalue] at hnone
    simp at hnone
  · exact Option.some.inj (hvalue.symm.trans hnull)

namespace Variable

variable {v : Variable} {params value : Json} {e : ExpandError}

/-- A variable that is bound to nothing or null is faulty where it needs a default and has none. -/
theorem fault_iff_of_absent (h : Absent params v.name) :
    v.Fault params e ↔ v.fallback = none ∧ v.operator ≠ .segment ∧ e = .missing v.name := by
  constructor
  · rintro (⟨hvalue, hcontainer⟩ | ⟨-, hfallback, hoperator⟩)
    · rw [h.eq_null hvalue] at hcontainer
      simp [Json.isContainer] at hcontainer
    · exact ⟨hfallback, hoperator, rfl⟩
  · rintro ⟨hfallback, hoperator, rfl⟩
    exact .missing h hfallback hoperator

/-- A variable that is bound to a scalar with a text is not faulty. -/
theorem not_fault_of_scalarText? {text : String} (hvalue : params.member? v.name = some value)
    (htext : value.scalarText? = some text) : ¬v.Fault params e := by
  rintro (⟨hvalue', hcontainer⟩ | ⟨habsent, -, -⟩)
  · obtain rfl := Option.some.inj (hvalue.symm.trans hvalue')
    cases value <;> simp_all [Json.scalarText?, Json.isContainer]
  · rw [habsent.eq_null hvalue] at htext
    simp [Json.scalarText?] at htext

/-- A variable that is bound to an array or an object is faulty. -/
theorem fault_iff_of_isContainer (hvalue : params.member? v.name = some value)
    (hcontainer : value.isContainer = true) : v.Fault params e ↔ e = .notScalar v.name := by
  constructor
  · rintro (- | ⟨habsent, -, -⟩)
    · rfl
    · rw [habsent.eq_null hvalue] at hcontainer
      simp [Json.isContainer] at hcontainer
  · rintro rfl
    exact .notScalar hvalue hcontainer

end Variable

/-- The expansion of a variable fails by its fault. -/
theorem Part.expand_variable_eq_error_iff {v : Variable} {params : Json} {e : ExpandError} :
    (Part.variable v).expand params = .error e ↔ v.Fault params e := by
  rcases v.binding_cases params with
    ⟨habsent, -, hv⟩ | ⟨value, text, hvalue, htext, -, hv⟩ | ⟨value, hvalue, hcontainer, hv⟩
  · rw [Variable.fault_iff_of_absent habsent]
    simp only [Part.expand, hv]
    cases v.fallback with
    | some text => simp
    | none => by_cases hoperator : v.operator = .segment <;> simp [hoperator, eq_comm]
  · refine iff_of_false ?_ (Variable.not_fault_of_scalarText? hvalue htext)
    simp [Part.expand, hv]
  · rw [Variable.fault_iff_of_isContainer hvalue hcontainer]
    simp [Part.expand, hv, eq_comm]

/-- A variable that can be expanded takes the text that it stands for. -/
theorem Variable.value?_eq_of_eq_ok {v : Variable} {params : Json} {value : Option String}
    (h : v.value? params = .ok value) : v.effective? params = value := by
  rcases v.binding_cases params with
    ⟨-, heffective, hv⟩ | ⟨_, text, -, -, heffective, hv⟩ | ⟨_, -, -, hv⟩
  · exact heffective.trans (Except.ok.inj (hv.symm.trans h))
  · exact heffective.trans (Except.ok.inj (hv.symm.trans h))
  · simp [hv] at h

/-- A part that can be expanded contributes its text.

**Proof sketch.** A variable takes the text that it stands for (`Variable.value?_eq_of_eq_ok`).
Where there is one, it is inserted as its operator says, and otherwise the variable is a segment. -/
theorem Part.eq_text_of_expand_eq_ok {part : Part} {params : Json} {s : List Char}
    (h : part.expand params = .ok s) : s = part.text params := by
  cases part with
  | literal text => exact (Except.ok.inj h).symm
  | «variable» v =>
    cases hvalue : v.value? params with
    | error e => simp [Part.expand, hvalue] at h
    | ok value =>
      have heffective := Variable.value?_eq_of_eq_ok hvalue
      simp only [Part.expand, hvalue] at h
      cases value with
      | none =>
        by_cases hsegment : v.operator = .segment
        · rw [if_pos hsegment] at h
          simpa only [Part.text, heffective] using (Except.ok.inj h).symm
        · simp [hsegment] at h
      | some value =>
        obtain rfl := Except.ok.inj h
        cases hoperator : v.operator with
        | simple | reserved | segment =>
          simp only [Part.text, heffective, hoperator, Operator.insert]

/-- Literals can always be expanded. -/
theorem Part.expand_eq_error_iff {part : Part} {params : Json} {e : ExpandError} :
    part.expand params = .error e ↔ ∃ v, part.variable? = some v ∧ v.Fault params e := by
  cases part with
  | literal text => simp [Part.expand, Part.variable?]
  | «variable» v => simp [Part.expand_variable_eq_error_iff, Part.variable?]

/-! ## All parts -/

/-- The expansion applies a function along the parts and joins the results. -/
theorem expandParts_eq_map_mapM (params : Json) (parts : List Part) :
    expandParts params parts = (parts.mapM (Part.expand params)).map List.flatten := by
  induction parts with
  | nil => rfl
  | cons part rest ih =>
    rw [expandParts, List.mapM_cons, ih]
    cases part.expand params with
    | error e => rfl
    | ok s => cases rest.mapM (Part.expand params) <;> rfl

/-- What parts expand to is made of their texts. -/
theorem eq_flatMap_of_expandParts {params : Json} {parts : List Part} {s : List Char}
    (h : expandParts params parts = .ok s) : s = parts.flatMap (Part.text params) := by
  rw [expandParts_eq_map_mapM] at h
  obtain ⟨texts, htexts, rfl⟩ := map_eq_ok_iff.1 h
  have hparts := mapM_eq_ok_iff.1 htexts
  clear h htexts
  induction hparts with
  | nil => rfl
  | cons hpart _ ih =>
    rw [List.flatten_cons, List.flatMap_cons, Part.eq_text_of_expand_eq_ok hpart, ih]

/-- A variable that is bound to the same has the same expansion. -/
theorem Part.expand_congr {part : Part} {params params' : Json}
    (h : ∀ v, part = .variable v → params.member? v.name = params'.member? v.name) :
    part.expand params = part.expand params' := by
  cases part with
  | literal text => rfl
  | «variable» v => rw [Part.expand, Part.expand, Variable.value?, Variable.value?, h v rfl]

/-- Parts that each expand alike expand alike together. -/
theorem expandParts_congr {params params' : Json} {parts : List Part}
    (h : ∀ part ∈ parts, part.expand params = part.expand params') :
    expandParts params parts = expandParts params' parts := by
  induction parts with
  | nil => rfl
  | cons part rest ih =>
    rw [expandParts, expandParts, h part List.mem_cons_self,
      ih fun other hother => h other (List.mem_cons_of_mem _ hother)]

namespace Template

/-- **The URI is made of the texts of the parts**, one after the other. -/
theorem eq_of_expand_eq_ok {t : Template} {params : Json} {uri : String}
    (h : t.expand params = .ok uri) : uri.toList = t.parts.flatMap (Part.text params) := by
  obtain ⟨s, hs, rfl⟩ := map_eq_ok_iff.1 h
  rw [String.toList_ofList]
  exact eq_flatMap_of_expandParts hs

/-- **The first faulty variable decides the error**, whatever comes behind it. -/
theorem expand_eq_error_iff {t : Template} {params : Json} {e : ExpandError} :
    t.expand params = .error e ↔ FirstFault (fun v e => v.Fault params e) t.variables e := by
  rw [expand, map_eq_error_iff, expandParts_eq_map_mapM, map_eq_error_iff, mapM_eq_error_iff,
    Template.variables, firstFault_filterMap]
  exact firstFault_congr fun part _ e => Part.expand_eq_error_iff

/-- The expansion succeeds where no variable is faulty. -/
theorem exists_expand_eq_ok_iff {t : Template} {params : Json} :
    (∃ uri, t.expand params = .ok uri) ↔ ∀ v ∈ t.variables, ∀ e, ¬v.Fault params e := by
  have hfault : (∃ e, t.expand params = .error e) ↔ ∃ v ∈ t.variables, ∃ e, v.Fault params e := by
    simp only [expand_eq_error_iff]
    exact exists_firstFault_iff
  cases hexpand : t.expand params with
  | ok uri =>
    refine iff_of_true ⟨uri, rfl⟩ fun v hv e he => ?_
    obtain ⟨e', he'⟩ := hfault.2 ⟨v, hv, e, he⟩
    rw [hexpand] at he'
    simp at he'
  | error e =>
    obtain ⟨v, hv, e', he'⟩ := hfault.1 ⟨e, hexpand⟩
    exact iff_of_false (by simp) fun hall => hall v hv e' he'

/-- Only what the variables are bound to is read. -/
theorem expand_congr {t : Template} {params params' : Json}
    (h : ∀ v ∈ t.variables, params.member? v.name = params'.member? v.name) :
    t.expand params = t.expand params' := by
  rw [expand, expand, expandParts_congr fun part hpart => Part.expand_congr fun v hv =>
    h v (mem_variables_iff.2 (hv ▸ hpart))]

/-- A template with the parts of two expands as the first of them, and then as the second. -/
theorem expand_append (t t' : Template) (params : Json) :
    expand ⟨t.parts ++ t'.parts⟩ params =
      (t.expand params).bind fun front => (t'.expand params).map (front ++ ·) := by
  rw [expand, expandParts_append, expand, expand]
  cases expandParts params t.parts with
  | error e => rfl
  | ok front =>
    cases expandParts params t'.parts with
    | error e => rfl
    | ok back => simp [Except.map, Except.bind, String.ofList_append]

/-- **When an expansion succeeds, and what it depends on.** Take any template and any parameters.

* The expansion succeeds exactly where no variable is bound to an array or an object, whatever its
  default and its operator are, and every variable that is bound to nothing or null has a default or
  is an optional segment.
* The URI is then made of the texts of the parts: a value stands there percent-encoded, as it is, or
  percent-encoded behind a slash, as the operator of the variable says. A variable that is bound to
  anything but null stands for the text of that scalar, whatever its default is.
* If it fails, the error is that of the first faulty variable.
* Parameters that bind the names of the variables alike give the same outcome, and parameters that
  are no object give that of the empty object.
* A template with the parts of two fails as the first that fails, and otherwise gives the two URIs
  one after the other.

**Proof sketch.** What a part expands to is settled by the cases of what a variable can be bound to
(`Variable.binding_cases`). Expanding the parts is applying a function along a list, so the first
failure decides (`expandParts_eq_map_mapM`, `mapM_eq_error_iff`). -/
theorem expand_outcome (t : Template) (params : Json) :
    ((∃ uri, t.expand params = .ok uri) ↔
      (∀ v ∈ t.variables, ∀ value, params.member? v.name = some value →
        value.isContainer = false) ∧
      ∀ v ∈ t.variables, Absent params v.name → v.fallback ≠ none ∨ v.operator = .segment) ∧
    (∀ uri, t.expand params = .ok uri →
      uri.toList = t.parts.flatMap (Part.text params) ∧
      ∀ v ∈ t.variables, ∀ value, params.member? v.name = some value → value ≠ .null →
        ∃ text, value.scalarText? = some text ∧ v.effective? params = some text) ∧
    (∀ error, t.expand params = .error error ↔
      FirstFault (fun v e => v.Fault params e) t.variables error) ∧
    (∀ params', (∀ v ∈ t.variables, params.member? v.name = params'.member? v.name) →
      t.expand params = t.expand params') ∧
    ((∀ members, params ≠ .object members) → t.expand params = t.expand (.object [])) ∧
    ∀ t' : Template, expand ⟨t.parts ++ t'.parts⟩ params =
      (t.expand params).bind fun front => (t'.expand params).map (front ++ ·) := by
  refine ⟨?_, fun uri huri => ⟨eq_of_expand_eq_ok huri, ?_⟩, fun error => expand_eq_error_iff,
    fun params' => expand_congr, ?_, fun t' => expand_append t t' params⟩
  · rw [exists_expand_eq_ok_iff]
    constructor
    · intro hfree
      refine ⟨fun v hv value hvalue => ?_, fun v hv habsent => ?_⟩
      · by_contra hcontainer
        exact hfree v hv _ (.notScalar hvalue (by simpa using hcontainer))
      · by_contra hneither
        rw [not_or, not_not] at hneither
        exact hfree v hv _ (.missing habsent hneither.1 hneither.2)
    · rintro ⟨hscalar, hdefault⟩ v hv e (⟨hvalue, hcontainer⟩ | ⟨habsent, hfallback, hoperator⟩)
      · rw [hscalar v hv _ hvalue] at hcontainer
        simp at hcontainer
      · rcases hdefault v hv habsent with hsome | hsegment
        · exact hsome hfallback
        · exact hoperator hsegment
  · intro v hv value hvalue hne
    rcases v.binding_cases params with
      ⟨habsent, -, -⟩ | ⟨value', text, hvalue', htext, heffective, -⟩ |
      ⟨value', hvalue', hcontainer, -⟩
    · exact absurd (habsent.eq_null hvalue) hne
    · obtain rfl := Option.some.inj (hvalue.symm.trans hvalue')
      exact ⟨text, htext, heffective⟩
    · exact absurd (.notScalar hvalue' hcontainer)
        (exists_expand_eq_ok_iff.1 ⟨uri, huri⟩ v hv (.notScalar v.name))
  · intro hobject
    refine expand_congr fun v _ => ?_
    cases params with
    | object members => exact absurd rfl (hobject members)
    | _ => rfl

/-- An array fails the expansion although the variable is an optional segment with a default, and
it does so before the missing variable behind it. The empty text stands for itself and not for the
default. -/
theorem expand_outcome_array_segment :
    let rev : Variable := ⟨"rev", .segment, some "1"⟩
    let t : Template := ⟨[.literal "/a", .variable rev, .variable ⟨"id", .simple, none⟩]⟩
    let params := Json.object [("rev", .array [])]
    let other := Json.object [("unread", .bool true), ("rev", .array [])]
    let empty := Json.object [("rev", .string "")]
    t.expand params = .error (.notScalar "rev") ∧ t.expand params = t.expand other ∧
      t.expand .null = t.expand (.object []) ∧ rev.effective? empty = some "" := by
  intro rev t params other empty
  have hagree : ∀ v ∈ t.variables, params.member? v.name = other.member? v.name := by
    intro v hv
    rcases List.mem_pair.1 hv with rfl | rfl
    · rfl
    · rfl
  refine ⟨((expand_outcome t params).2.2.1 _).2 ⟨[], rev, _, rfl, by simp, ?_⟩,
    (expand_outcome t params).2.2.2.1 other hagree,
    (expand_outcome t .null).2.2.2.2.1 (by simp), ?_⟩
  · exact @Variable.Fault.notScalar rev params (.array []) rfl rfl
  · obtain ⟨text, htext, heffective⟩ := ((expand_outcome ⟨[.variable rev]⟩ empty).2.1 "/" rfl).2 rev
      List.mem_cons_self (.string "") rfl (by simp)
    obtain rfl := Option.some.inj htext
    exact heffective

end Template

end Uri

end Remap
