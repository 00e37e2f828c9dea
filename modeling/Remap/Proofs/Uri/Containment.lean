import Remap.Proofs.Uri.Binding
import Remap.Proofs.Uri.Percent

set_option relaxedAutoImplicit false
set_option autoImplicit false

/-!
# Values in a URI

The structure of a URI is that of its template. Unless a variable is inserted as it is, the text of
a value is percent-encoded, so no slash, question mark, number sign or other delimiter in it reaches
the URI; the only delimiters are those of the literals and the slashes of optional segments. What
was inserted can be read back by decoding, so at one place of the template different values give
different URIs.

## Main definitions

* `Remap.Uri.Carries` — percent-encoded texts of a value.
* `Remap.Uri.Part.Holds` — what may stand in a URI in the place of a part.
* `Remap.Uri.Part.literalText`, `Remap.Uri.Variable.fillsSegment` — where delimiters come from.

## Main results

* `Remap.Uri.Part.Holds.count_eq` — the delimiters in the place of a part.
* `Remap.Uri.Part.Holds.effective?_eq` — the value of a variable can be read back from its place.
* `Remap.Uri.Template.expand_structure` — values cannot change the structure of a URI.
-/

namespace Remap.Uri

/-- The text is percent-encoded, and decoding it gives the bytes of the value. -/
structure Carries (s : List Char) (value : String) : Prop where
  isEncoded : IsEncoded s
  decode_eq : (percentDecode s).toByteArray = value.toUTF8

/-- `part.Holds params s` says that `s` may stand in a URI in the place of the part: the text of a
literal, or a text that carries the value of a variable, with a slash before it in an optional
segment. An optional segment without a value is left out. -/
inductive Part.Holds (params : Json) : Part → List Char → Prop
  | literal (text : String) : Holds params (.literal text) text.toList
  | simple {v : Variable} {value : String} {s : List Char} (hoperator : v.operator = .simple)
      (hvalue : v.effective? params = some value) (hs : Carries s value) :
      Holds params (.variable v) s
  | segment {v : Variable} {value : String} {s : List Char} (hoperator : v.operator = .segment)
      (hvalue : v.effective? params = some value) (hs : Carries s value) :
      Holds params (.variable v) ('/' :: s)
  | omitted {v : Variable} (hoperator : v.operator = .segment)
      (hvalue : v.effective? params = none) : Holds params (.variable v) []

/-- The text of a part that does not depend on any value. -/
def Part.literalText : Part → List Char
  | .literal text => text.toList
  | .variable _ => []

/-- Whether the variable is an optional segment that has a value. -/
def Variable.fillsSegment (v : Variable) (params : Json) : Bool :=
  v.operator = .segment && (v.effective? params).isSome

/-! ## Carried values -/

/-- Encoding gives a text that carries the value. -/
theorem carries_percentEncode (value : String) : Carries (percentEncode value.toList) value := by
  refine ⟨isEncoded_percentEncode _, ?_⟩
  rw [percentDecode_percentEncode]
  exact String.utf8Encode_toList

/-- A text carries only one value. -/
theorem Carries.value_eq {s : List Char} {value value' : String} (h : Carries s value)
    (h' : Carries s value') : value = value' :=
  String.toByteArray_inj.1 (h.decode_eq.symm.trans h'.decode_eq)

/-- A text that carries a value holds no delimiters. -/
theorem Carries.count_eq_zero {s : List Char} {value : String} (h : Carries s value) {c : Char}
    (hc : isUnreserved c = false) (hpercent : c ≠ '%') : s.count c = 0 := by
  rw [List.count_eq_zero]
  intro hmem
  rcases h.isEncoded.isUnreserved_or_eq hmem with hunreserved | heq
  · rw [hc] at hunreserved
    simp at hunreserved
  · exact hpercent heq

/-! ## One part -/

/-- A variable that is not faulty stands for a text, unless it is an optional segment. -/
theorem Variable.eq_segment_of_effective? {v : Variable} {params : Json}
    (hfree : ∀ e, ¬v.Fault params e) (h : v.effective? params = none) : v.operator = .segment := by
  rcases v.binding_cases params with
    ⟨habsent, heffective, -⟩ | ⟨value, text, -, -, heffective, -⟩ | ⟨value, hvalue, hcontainer, -⟩
  · by_contra hoperator
    exact hfree _ (.missing habsent (heffective.symm.trans h) hoperator)
  · rw [h] at heffective
    simp at heffective
  · exact absurd (.notScalar hvalue hcontainer) (hfree (.notScalar v.name))

/-- The text of a part may stand in its place. -/
theorem Part.holds_text {part : Part} {params : Json}
    (hfree : ∀ v, part = .variable v → v.operator ≠ .reserved ∧ ∀ e, ¬v.Fault params e) :
    part.Holds params (part.text params) := by
  cases part with
  | literal text => exact .literal text
  | «variable» v =>
    obtain ⟨hreserved, hfault⟩ := hfree v rfl
    cases hvalue : v.effective? params with
    | none =>
      simp only [Part.text, hvalue]
      exact .omitted (Variable.eq_segment_of_effective? hfault hvalue) hvalue
    | some value =>
      cases hoperator : v.operator with
      | simple =>
        simp only [Part.text, hvalue, hoperator]
        exact .simple hoperator hvalue (carries_percentEncode value)
      | reserved => exact absurd hoperator hreserved
      | segment =>
        simp only [Part.text, hvalue, hoperator]
        exact .segment hoperator hvalue (carries_percentEncode value)

namespace Part.Holds

variable {params params' : Json} {part : Part} {s : List Char}

/-- **The delimiters in the place of a part** are those of its literal text, and the slash of an
optional segment that has a value. -/
theorem count_eq (h : part.Holds params s) {c : Char} (hc : isUnreserved c = false)
    (hpercent : c ≠ '%') :
    s.count c = part.literalText.count c +
      if c = '/' then part.variable?.toList.countP (·.fillsSegment params) else 0 := by
  cases h with
  | literal text => simp [Part.literalText, Part.variable?]
  | simple hoperator hvalue hs =>
    rw [hs.count_eq_zero hc hpercent]
    simp [Part.literalText, Part.variable?, Variable.fillsSegment, hoperator]
  | segment hoperator hvalue hs =>
    rw [List.count_cons, hs.count_eq_zero hc hpercent]
    by_cases hslash : c = '/'
    · simp [Part.literalText, Part.variable?, Variable.fillsSegment, hoperator, hvalue, hslash]
    · simp [Part.literalText, hslash, Ne.symm hslash]
  | omitted hoperator hvalue =>
    simp [Part.literalText, Part.variable?, Variable.fillsSegment, hvalue]

/-- **The value of a variable can be read back from its place.**

**Proof sketch.** By what stands in the two places. The operator is the same for both, so that both
hold a text that carries the value, with or without a slash before it, or both hold nothing. -/
theorem effective?_eq {v : Variable} (h : (Part.variable v).Holds params s)
    (h' : (Part.variable v).Holds params' s) : v.effective? params = v.effective? params' := by
  cases h with
  | simple hoperator hvalue hs =>
    cases h' with
    | simple _ hvalue' hs' => rw [hvalue, hvalue', hs.value_eq hs']
    | segment hoperator' | omitted hoperator' =>
      exact absurd (hoperator.symm.trans hoperator') (by decide)
  | segment hoperator hvalue hs =>
    cases h' with
    | simple hoperator' => exact absurd (hoperator.symm.trans hoperator') (by decide)
    | segment _ hvalue' hs' => rw [hvalue, hvalue', hs.value_eq hs']
  | omitted hoperator hvalue =>
    cases h' with
    | simple hoperator' => exact absurd (hoperator.symm.trans hoperator') (by decide)
    | omitted _ hvalue' => rw [hvalue, hvalue']

end Part.Holds

/-! ## All parts -/

/-- The delimiters in texts that stand in the places of parts, one after the other. -/
theorem count_flatten_of_holds {params : Json} {parts : List Part} {texts : List (List Char)}
    (h : List.Forall₂ (Part.Holds params) parts texts) {c : Char} (hc : isUnreserved c = false)
    (hpercent : c ≠ '%') :
    texts.flatten.count c = (parts.flatMap Part.literalText).count c +
      if c = '/' then (parts.filterMap Part.variable?).countP (·.fillsSegment params) else 0 := by
  induction h with
  | nil => simp
  | @cons part s parts texts hpart _ ih =>
    have hvariables : (part :: parts).filterMap Part.variable? =
        part.variable?.toList ++ parts.filterMap Part.variable? := by
      cases part <;> rfl
    rw [List.flatten_cons, List.count_append, ih, hpart.count_eq hc hpercent, List.flatMap_cons,
      List.count_append, hvariables, List.countP_append]
    by_cases hslash : c = '/'
    · simp only [if_pos hslash]
      omega
    · simp only [if_neg hslash]
      omega

namespace Template

variable {t : Template} {params params' : Json} {uri uri' : String}

/-- The places of the parts of an expanded URI hold the literals and the values. -/
theorem holds_of_expand_eq_ok (ht : ∀ v ∈ t.variables, v.operator ≠ .reserved)
    (h : t.expand params = .ok uri) :
    ∀ part ∈ t.parts, part.Holds params (part.text params) := by
  intro part hpart
  refine Part.holds_text ?_
  rintro v rfl
  have hv := mem_variables_iff.2 hpart
  exact ⟨ht v hv, exists_expand_eq_ok_iff.1 ⟨uri, h⟩ v hv⟩

/-- The texts of parts depend on the values of their variables only. -/
theorem flatMap_text_congr {parts : List Part}
    (h : ∀ v, .variable v ∈ parts → v.effective? params = v.effective? params') :
    parts.flatMap (Part.text params) = parts.flatMap (Part.text params') := by
  refine List.flatMap_congr fun part hpart => ?_
  cases part with
  | literal text => rfl
  | «variable» v => rw [Part.text, Part.text, h v hpart]

/-- Parameters that give the variables at all places but one the same values give the same URI
exactly if they do so at that place, too. -/
theorem uri_eq_iff_of_agree (ht : ∀ v ∈ t.variables, v.operator ≠ .reserved)
    (h : t.expand params = .ok uri) (h' : t.expand params' = .ok uri') {front back : List Part}
    {v : Variable} (hparts : t.parts = front ++ .variable v :: back)
    (hagree : ∀ w, .variable w ∈ front ++ back → w.effective? params = w.effective? params') :
    uri = uri' ↔ v.effective? params = v.effective? params' := by
  have hfront := flatMap_text_congr fun w hw => hagree w (List.mem_append_left back hw)
  have hback := flatMap_text_congr fun w hw => hagree w (List.mem_append_right front hw)
  have hplace : uri = uri' ↔ (Part.variable v).text params = (Part.variable v).text params' := by
    rw [← String.toList_inj, eq_of_expand_eq_ok h, eq_of_expand_eq_ok h', hparts,
      List.flatMap_append, List.flatMap_append, List.flatMap_cons, List.flatMap_cons, hfront,
      hback, List.append_cancel_left_eq, List.append_cancel_right_eq]
  have hv : Part.variable v ∈ t.parts := by
    rw [hparts]
    exact List.mem_append_right _ List.mem_cons_self
  rw [hplace]
  constructor
  · intro htext
    have hholds := holds_of_expand_eq_ok ht h _ hv
    rw [htext] at hholds
    exact hholds.effective?_eq (holds_of_expand_eq_ok ht h' _ hv)
  · intro hvalue
    rw [Part.text, Part.text, hvalue]

/-- **Values cannot change the structure of a URI.** Take a template in which no variable is
inserted as it is.

* A URI that it expands to is made of the literals and, for each variable with a value, a text that
  is percent-encoded and decodes to the bytes of the value, with a slash before it in an optional
  segment. So every character that is neither unreserved nor a percent sign occurs in the URI as
  often as in the literals, apart from one slash for each optional segment with a value.
* Parameters that give every variable the same value give the same URI. Parameters that do so at all
  places but one give the same URI only if they do so there, too.

**Proof sketch.** Encoded texts hold no delimiters (`Carries.count_eq_zero`), and decoding gives the
bytes of the value back (`percentDecode_percentEncode`). Where only one place can differ, the texts
before it and behind it are the same and cancel; what is left is the text in that place, from which
the value is read back (`Part.Holds.effective?_eq`). -/
theorem expand_structure (ht : ∀ v ∈ t.variables, v.operator ≠ .reserved) :
    (∀ params uri, t.expand params = .ok uri →
      (∃ texts, List.Forall₂ (Part.Holds params) t.parts texts ∧ uri.toList = texts.flatten) ∧
      ∀ c, isUnreserved c = false → c ≠ '%' →
        uri.toList.count c = (t.parts.flatMap Part.literalText).count c +
          if c = '/' then t.variables.countP (·.fillsSegment params) else 0) ∧
    ∀ params params' uri uri', t.expand params = .ok uri → t.expand params' = .ok uri' →
      ((∀ v ∈ t.variables, v.effective? params = v.effective? params') → uri = uri') ∧
      ∀ front v back, t.parts = front ++ .variable v :: back →
        (∀ w, .variable w ∈ front ++ back → w.effective? params = w.effective? params') →
        (uri = uri' ↔ v.effective? params = v.effective? params') := by
  refine ⟨fun params uri h => ?_, fun params params' uri uri' h h' =>
    ⟨?_, fun front v back => uri_eq_iff_of_agree ht h h'⟩⟩
  · have hholds : List.Forall₂ (Part.Holds params) t.parts (t.parts.map (Part.text params)) := by
      rw [List.forall₂_map_right_iff, List.forall₂_same]
      exact holds_of_expand_eq_ok ht h
    have htexts : uri.toList = (t.parts.map (Part.text params)).flatten := by
      rw [eq_of_expand_eq_ok h, List.flatMap_def]
    refine ⟨⟨_, hholds, htexts⟩, fun c hc hpercent => ?_⟩
    rw [htexts, count_flatten_of_holds hholds hc hpercent, Template.variables]
  · intro hagree
    rw [← String.toList_inj, eq_of_expand_eq_ok h, eq_of_expand_eq_ok h']
    exact flatMap_text_congr fun v hv => hagree v (mem_variables_iff.2 hv)

/-- A value with delimiters, a percent sign and a letter outside ASCII between a literal and an
optional segment that takes its default. The value that is already encoded gives another URI. -/
theorem expand_structure_delimiters :
    let title : Variable := ⟨"title", .simple, none⟩
    let rev : Variable := ⟨"rev", .segment, some "1"⟩
    let t : Template := ⟨[.literal "/w/", .variable title, .variable rev]⟩
    let plain := Json.object [("title", .string "a/b?é%")]
    let encoded := Json.object [("title", .string "a%2Fb?é%")]
    t.expand plain = .ok "/w/a%2Fb%3F%C3%A9%25/1" ∧
      "/w/a%2Fb%3F%C3%A9%25/1".toList.count '/' = 2 + 1 ∧
      "/w/a%2Fb%3F%C3%A9%25/1".toList.count '?' = 0 ∧
      ∃ uri, t.expand encoded = .ok uri ∧ "/w/a%2Fb%3F%C3%A9%25/1" ≠ uri := by
  intro title rev t plain encoded
  have ht : ∀ v ∈ t.variables, v.operator ≠ .reserved := by decide
  have hplain : t.expand plain = .ok "/w/a%2Fb%3F%C3%A9%25/1" := rfl
  have hencoded : t.expand encoded = .ok "/w/a%252Fb%3F%C3%A9%25/1" := rfl
  obtain ⟨-, hcount⟩ := (expand_structure ht).1 plain _ hplain
  refine ⟨hplain, ?_, ?_, _, hencoded, ?_⟩
  · exact (hcount '/' (by decide) (by decide)).trans rfl
  · exact (hcount '?' (by decide) (by decide)).trans rfl
  · have hagree : ∀ w, .variable w ∈ [Part.literal "/w/"] ++ [.variable rev] →
        w.effective? plain = w.effective? encoded := by
      intro w hw
      obtain rfl : w = rev := by simpa using hw
      rfl
    rw [Ne, ((expand_structure ht).2 plain encoded _ _ hplain hencoded).2 [.literal "/w/"] title
      [.variable rev] rfl hagree]
    decide

end Template

end Remap.Uri
