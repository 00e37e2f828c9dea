import Remap.Proofs.Uri.Binding
import Remap.Proofs.Uri.Completeness

set_option relaxedAutoImplicit false
set_option autoImplicit false

/-!
# Texts that expand to themselves

A text with its braces doubled is read as one literal, which expands to the text. So a text without
braces expands to itself. No other text does so for all parameters: a variable cannot be expanded by
an array, and an escaped brace expands to a text that is shorter.

## Main definitions

* `Remap.Uri.escapeBraces` — a text with its braces doubled.

## Main results

* `Remap.Uri.parse_escapeBraces` — a text with its braces doubled is read as one literal.
* `Remap.Uri.Template.exists_expand_eq_error` — every variable can make the expansion fail.
* `Remap.Uri.not_mem_braces_of_itemsSpell` — characters spelled by themselves are no braces.
* `Remap.Uri.parse_expand_eq_self_iff` — which texts expand to themselves.
-/

namespace Remap.Uri

/-! ## Texts that are one literal -/

/-- The text with its braces doubled. -/
def escapeBraces (s : List Char) : List Char :=
  s.flatMap fun c => if c = '{' ∨ c = '}' then [c, c] else [c]

/-- The first character is doubled if it is a brace. -/
theorem escapeBraces_cons (c : Char) (rest : List Char) :
    escapeBraces (c :: rest) =
      (if c = '{' ∨ c = '}' then [c, c] else [c]) ++ escapeBraces rest := rfl

/-- A text without braces stays as it is. -/
theorem escapeBraces_eq_self {s : List Char} (hopening : '{' ∉ s) (hclosing : '}' ∉ s) :
    escapeBraces s = s := by
  induction s with
  | nil => rfl
  | cons c rest ih =>
    rw [List.mem_cons, not_or] at hopening hclosing
    rw [escapeBraces_cons, if_neg (not_or.2 ⟨Ne.symm hopening.1, Ne.symm hclosing.1⟩),
      ih hopening.2 hclosing.2, List.singleton_append]

/-- Characters are spelled by themselves, braces by two of them. -/
theorem itemsSpell_escapeBraces (s : List Char) : ItemsSpell (s.map .char) (escapeBraces s) := by
  induction s with
  | nil => exact .nil
  | cons c rest ih =>
    rw [List.map_cons, escapeBraces_cons]
    refine .cons ?_ ih
    by_cases hopening : c = '{'
    · subst hopening
      exact .openingBrace
    · by_cases hclosing : c = '}'
      · subst hclosing
        exact .closingBrace
      · rw [if_neg (not_or.2 ⟨hopening, hclosing⟩)]
        exact .char hopening hclosing

/-- A text with its braces doubled is read as the one literal. -/
theorem parse_escapeBraces (s : List Char) :
    parse (String.ofList (escapeBraces s)) = .ok ⟨Part.literals s⟩ := by
  refine parse_eq_ok_iff_spells.2 ⟨s.map .char, ?_, .last s⟩
  rw [String.toList_ofList]
  exact itemsSpell_escapeBraces s

/-- A text without braces is read as one literal. -/
theorem parse_of_not_mem_braces {text : String} (hopening : '{' ∉ text.toList)
    (hclosing : '}' ∉ text.toList) : parse text = .ok ⟨Part.literals text.toList⟩ := by
  have hparse := parse_escapeBraces text.toList
  rwa [escapeBraces_eq_self hopening hclosing, String.ofList_toList] at hparse

/-- A literal expands to its text. -/
theorem Template.expand_literals (run : List Char) (params : Json) :
    (Template.mk (Part.literals run)).expand params = .ok (String.ofList run) := by
  rw [expand, Part.literals]
  by_cases hrun : run = []
  · subst hrun
    rfl
  · simp [hrun, expandParts, Part.expand, Except.map]

/-! ## Other texts -/

/-- **Every variable can make the expansion fail**, because its parameter may be an array. -/
theorem Template.exists_expand_eq_error {t : Template} {v : Variable} (h : .variable v ∈ t.parts) :
    ∃ error, t.expand (.object [(v.name, .array [])]) = .error error := by
  have hbound : (Json.object [(v.name, .array [])]).member? v.name = some (.array []) := by
    simp [Json.member?, Members.get?]
  cases hexpand : t.expand (.object [(v.name, .array [])]) with
  | ok uri =>
    have hfree := exists_expand_eq_ok_iff.1 ⟨uri, hexpand⟩ v (mem_variables_iff.2 h)
    exact absurd (.notScalar hbound rfl) (hfree (.notScalar v.name))
  | error error => exact ⟨error, rfl⟩

/-- The text of characters is at least as long as they are, and where it is not longer there are no
braces in it: an escaped brace takes two characters. -/
theorem not_mem_braces_of_itemsSpell {run s : List Char} (h : ItemsSpell (run.map .char) s) :
    run.length ≤ s.length ∧ (run.length = s.length → '{' ∉ s ∧ '}' ∉ s) := by
  induction run generalizing s with
  | nil =>
    cases h
    simp
  | cons c run ih =>
    obtain _ | @⟨_, _, own, rest, hown, hrest⟩ := h
    obtain ⟨hle, hbraces⟩ := ih hrest
    cases hown with
    | openingBrace =>
      simp only [List.length_cons, List.length_append, List.length_nil]
      omega
    | closingBrace =>
      simp only [List.length_cons, List.length_append, List.length_nil]
      omega
    | char hopening hclosing =>
      rw [List.singleton_append, List.length_cons, List.length_cons, Nat.add_right_cancel_iff]
      refine ⟨Nat.succ_le_succ hle, fun hlength => ?_⟩
      obtain ⟨hopenings, hclosings⟩ := hbraces hlength
      simp [hopenings, hclosings, Ne.symm hopening, Ne.symm hclosing]

/-- **A text expands to itself for all parameters exactly where it has no braces.**

**Proof sketch.** A template with a variable fails for some parameters, so a text that always
expands to itself is one literal. That literal has as many characters as the text has, which a brace
excludes: each brace of a literal is written twice (`not_mem_braces_of_itemsSpell`). A text without
braces is read as itself (`parse_of_not_mem_braces`). -/
theorem parse_expand_eq_self_iff {text : String} :
    (∃ t, parse text = .ok t ∧ ∀ params, t.expand params = .ok text) ↔
      '{' ∉ text.toList ∧ '}' ∉ text.toList := by
  constructor
  · rintro ⟨t, hparse, hexpand⟩
    obtain ⟨items, hitems, hmerges⟩ := parse_eq_ok_iff_spells.1 hparse
    generalize hparts : t.parts = parts at hmerges
    cases hmerges with
    | last run =>
      obtain rfl : t = ⟨Part.literals run⟩ := congrArg Template.mk hparts
      -- Without a variable the text is the one literal, and its characters spell it.
      have hrun : String.ofList run = text :=
        Except.ok.inj ((Template.expand_literals run .null).symm.trans (hexpand .null))
      have hlength : run.length = text.toList.length := by
        rw [← hrun, String.toList_ofList]
      exact (not_mem_braces_of_itemsSpell hitems).2 hlength
    | cons run v hrest =>
      have hvariable : .variable v ∈ t.parts := by
        rw [hparts]
        exact List.mem_append_right _ List.mem_cons_self
      obtain ⟨error, herror⟩ := Template.exists_expand_eq_error hvariable
      rw [hexpand] at herror
      simp at herror
  · rintro ⟨hopening, hclosing⟩
    refine ⟨_, parse_of_not_mem_braces hopening hclosing, fun params => ?_⟩
    rw [Template.expand_literals, String.ofList_toList]

end Remap.Uri
