import Mathlib.Data.List.Chain
import Remap.Proofs.Uri.PlainText

set_option relaxedAutoImplicit false
set_option autoImplicit false

/-!
# Normal forms of URI templates

Many texts spell one template, and some templates have no text at all: an empty literal, two
literals side by side, a name with a space. The templates that have a text are the normal ones, and
each of them has one text without superfluous blanks, its source. In the source a literal touches
the variables beside it, and an escaped brace may stand next to the brace of a variable; nothing has
to be put between them, since a text of an item is read as that item whatever follows it.

## Main definitions

* `Remap.Uri.Template.Normal` — the templates that have a text.
* `Remap.Uri.Template.source` — the text without superfluous blanks.

## Main results

* `Remap.Uri.Template.normal_of_parse` — what is read is normal.
* `Remap.Uri.Template.parse_source` — the source of a normal template is read as that template.
* `Remap.Uri.exists_parse_iff_normal` — the templates that are read are the normal ones, the source
  is read back, and a text with doubled braces expands to itself.
-/

namespace Remap.Uri

/-! ## Normal templates -/

/-- A variable that can be written: its name is made of one or more characters of a name, and its
default value holds no closing brace and no blanks at its ends. -/
structure Variable.Normal (v : Variable) : Prop where
  name_ne : v.name ≠ ""
  name : ∀ c ∈ v.name.toList, isNameChar c = true
  fallback : ∀ text ∈ v.fallback, '}' ∉ text.toList ∧ Text.trim text.toList = text.toList

/-- Whether the part is a literal. -/
def Part.isLiteral : Part → Bool
  | .literal _ => true
  | .variable _ => false

/-- A literal with something in it, or a variable that can be written. -/
inductive Part.Normal : Part → Prop
  | literal {text : String} (h : text ≠ "") : Normal (.literal text)
  | variable {v : Variable} (h : v.Normal) : Normal (.variable v)

/-- A template of normal parts without two literals side by side. -/
structure Template.Normal (t : Template) : Prop where
  parts : ∀ part ∈ t.parts, part.Normal
  separated : t.parts.IsChain fun part next => ¬(part.isLiteral = true ∧ next.isLiteral = true)

/-! ## Sources -/

/-- The announcement of a default value, if there is one. -/
def fallbackSource : Option String → List Char
  | some text => '=' :: text.toList
  | none => []

/-- The source of a variable. -/
def Variable.source (v : Variable) : List Char :=
  '{' :: (v.operator.sign ++ (v.name.toList ++ (fallbackSource v.fallback ++ ['}'])))

/-- The source of a part. -/
def Part.source : Part → List Char
  | .literal text => escapeBraces text.toList
  | .variable v => v.source

/-- The source of a template. -/
def Template.source (t : Template) : String :=
  String.ofList (t.parts.flatMap Part.source)

/-! ## What is read is normal -/

/-- A text without blanks at its ends is trimmed already. -/
theorem trim_eq_self_iff {s : List Char} : Text.trim s = s ↔ Text.Trimmed s := by
  rw [Text.trim_eq_iff]
  constructor
  · exact And.left
  · exact fun h => ⟨h, [], [], by simp [Text.Blanks], by simp [Text.Blanks], by simp⟩

/-- A variable with a text can be written. -/
theorem Variable.Spells.normal {v : Variable} {s : List Char} (h : v.Spells s) : v.Normal := by
  cases h with
  | @mk before name after announced hbefore operator hne hname hafter fallback hfallback =>
    refine ⟨?_, ?_, ?_⟩
    · rwa [Ne, ← String.toList_eq_nil_iff, String.toList_ofList]
    · rwa [String.toList_ofList]
    · intro text htext
      cases hfallback with
      | none => simp at htext
      | some hbefore htrimmed hclosing hafter =>
        obtain rfl := Option.some.inj htext
        rw [String.toList_ofList]
        exact ⟨hclosing, trim_eq_self_iff.2 htrimmed⟩

/-- The variables among items that have a text can be written. -/
theorem ItemsSpell.normal {items : List Item} {s : List Char} (h : ItemsSpell items s)
    {v : Variable} (hv : .variable v ∈ items) : v.Normal := by
  induction h with
  | nil => simp at hv
  | cons hown _ ih =>
    rcases List.mem_cons.1 hv with rfl | hv
    · cases hown with
      | ofVariable hspells => exact hspells.normal
    · exact ih hv

/-- The literal of a run of characters is normal, as far as there is one. -/
theorem Part.normal_of_mem_literals {run : List Char} {part : Part} (h : part ∈ literals run) :
    part.Normal := by
  rw [literals] at h
  by_cases hrun : run = []
  · simp [hrun] at h
  · rw [if_neg hrun] at h
    obtain rfl := List.mem_singleton.1 h
    exact .literal (by rwa [Ne, ← String.toList_eq_nil_iff, String.toList_ofList])

/-- **Merging items gives a normal template** if the variables among them can be written.

**Proof sketch.** Induction on the runs: each one makes at most one literal, and behind it comes a
variable or nothing. -/
theorem Part.Merges.normal {parts : List Part} {items : List Item} (h : Merges parts items)
    (hitems : ∀ v, .variable v ∈ items → v.Normal) : (Template.mk parts).Normal := by
  induction h with
  | last run =>
    refine ⟨fun part hpart => normal_of_mem_literals hpart, ?_⟩
    by_cases hrun : run = [] <;> simp [literals, hrun]
  | @cons run v parts items hmerges ih =>
    obtain ⟨hparts, hseparated⟩ := ih fun w hw =>
      hitems w (List.mem_append_right _ (List.mem_cons_of_mem _ hw))
    have hv : v.Normal := hitems v (List.mem_append_right _ List.mem_cons_self)
    have hbehind : (Part.variable v :: parts).IsChain fun part next =>
        ¬(part.isLiteral = true ∧ next.isLiteral = true) :=
      List.isChain_cons.2 ⟨fun _ _ => by simp [isLiteral], hseparated⟩
    refine ⟨fun part hpart => ?_, ?_⟩
    · rcases List.mem_append.1 hpart with hpart | hpart
      · exact normal_of_mem_literals hpart
      · rcases List.mem_cons.1 hpart with rfl | hpart
        · exact .variable hv
        · exact hparts part hpart
    · rw [literals]
      by_cases hrun : run = []
      · rw [if_pos hrun]
        exact hbehind
      · rw [if_neg hrun]
        refine List.isChain_cons.2 ⟨fun next hnext => ?_, hbehind⟩
        obtain rfl := Option.some.inj hnext
        simp [isLiteral]

/-- **What is read from a text is normal.** -/
theorem Template.normal_of_parse {text : String} {t : Template} (h : parse text = .ok t) :
    t.Normal := by
  obtain ⟨items, hitems, hmerges⟩ := parse_eq_ok_iff_spells.1 h
  exact hmerges.normal fun v hv => hitems.normal hv

/-! ## Normal templates are read from their sources -/

/-- Texts of items one after the other are a text of all of them. -/
theorem ItemsSpell.append {items items' : List Item} {s s' : List Char} (h : ItemsSpell items s)
    (h' : ItemsSpell items' s') : ItemsSpell (items ++ items') (s ++ s') := by
  induction h with
  | nil => exact h'
  | cons hown _ ih =>
    rw [List.cons_append, List.append_assoc]
    exact .cons hown ih

/-- A default value is announced by its source. -/
theorem Variable.Normal.fallbackSpells {v : Variable} (h : v.Normal) :
    FallbackSpells v.fallback (fallbackSource v.fallback) := by
  have hnormal := h.fallback
  cases hv : v.fallback with
  | none => exact .none
  | some text =>
    obtain ⟨hclosing, htrim⟩ := hnormal text hv
    have hblanks : Text.Blanks [] := by simp [Text.Blanks]
    simpa [fallbackSource] using
      FallbackSpells.some hblanks (trim_eq_self_iff.1 htrim) hclosing hblanks

/-- The source of a variable that can be written is a text of it. -/
theorem Variable.Normal.spells {v : Variable} (h : v.Normal) : v.Spells v.source := by
  have hblanks : Text.Blanks [] := by simp [Text.Blanks]
  have hname : v.name.toList ≠ [] := by
    rw [Ne, String.toList_eq_nil_iff]
    exact h.name_ne
  simpa [source] using
    Variable.Spells.mk hblanks v.operator hname h.name hblanks h.fallbackSpells

namespace Part

/-- The items that a part is made of. -/
def items : Part → List Item
  | .literal text => text.toList.map .char
  | .variable v => [.variable v]

/-- The source of a normal part spells its items. -/
theorem Normal.itemsSpell {part : Part} (h : part.Normal) : ItemsSpell part.items part.source := by
  cases h with
  | @literal text _ => exact itemsSpell_escapeBraces text.toList
  | @«variable» v hv => simpa [items, source] using ItemsSpell.cons (.ofVariable hv.spells) .nil

/-- The sources of normal parts spell their items. -/
theorem itemsSpell_flatMap {parts : List Part} (h : ∀ part ∈ parts, part.Normal) :
    ItemsSpell (parts.flatMap items) (parts.flatMap source) := by
  induction parts with
  | nil => exact .nil
  | cons part rest ih =>
    rw [List.forall_mem_cons] at h
    exact h.1.itemsSpell.append (ih h.2)

/-- The characters of a text that is not empty make one literal of it. -/
theorem literals_toList {text : String} (h : text ≠ "") :
    literals text.toList = [.literal text] := by
  rw [literals, if_neg (by rwa [String.toList_eq_nil_iff]), String.ofList_toList]

/-- The parts behind the first one of a normal template are normal. -/
theorem normal_of_cons {part : Part} {rest : List Part}
    (h : (Template.mk (part :: rest)).Normal) : (Template.mk rest).Normal :=
  ⟨fun next hnext => h.parts next (List.mem_cons_of_mem _ hnext), h.separated.tail⟩

/-- **The items of a normal template merge into its parts**: a literal is followed by a variable or
by nothing, so it is all of the run in which it stands. -/
theorem merges_flatMap_items : ∀ {parts : List Part},
    (Template.mk parts).Normal → Merges parts (parts.flatMap items)
  | [], _ => .last []
  | .variable v :: rest, h => .cons [] v (merges_flatMap_items (normal_of_cons h))
  | [.literal text], h => by
    obtain ⟨hne⟩ := h.parts _ List.mem_cons_self
    simpa [items, literals_toList hne] using Merges.last text.toList
  | .literal text :: .variable v :: rest, h => by
    obtain ⟨hne⟩ := h.parts _ List.mem_cons_self
    have hrest := merges_flatMap_items (normal_of_cons (normal_of_cons h))
    simpa [items, literals_toList hne] using Merges.cons text.toList v hrest
  | .literal text :: .literal next :: rest, h => by
    have hseparated := (List.isChain_cons.1 h.separated).1 (.literal next) rfl
    simp [isLiteral] at hseparated

end Part

/-- **The source of a normal template is read as that template.** -/
theorem Template.parse_source {t : Template} (h : t.Normal) : parse t.source = .ok t := by
  refine parse_eq_ok_iff_spells.2 ⟨t.parts.flatMap Part.items, ?_, Part.merges_flatMap_items h⟩
  rw [source, String.toList_ofList]
  exact Part.itemsSpell_flatMap h.parts

/-- **The templates that are read from texts are the normal ones, and their sources are read back.**
A template is read from some text if and only if it is normal, and if and only if it is read from
its own source. In particular every text with its braces doubled is read as a template that expands
to the text, whatever the parameters are.

**Proof sketch.** The items of a text are merged into parts that are normal
(`Part.Merges.normal`), since each longest run of characters makes at most one literal. In the other
direction the source of a normal template spells the items of its parts
(`Part.itemsSpell_flatMap`), and since no two literals touch, these merge into the same parts
(`Part.merges_flatMap_items`). -/
theorem exists_parse_iff_normal :
    (∀ t : Template, (∃ text, parse text = .ok t) ↔ t.Normal) ∧
      (∀ t : Template, parse t.source = .ok t ↔ t.Normal) ∧
      ∀ text : String, ∃ t, parse (String.ofList (escapeBraces text.toList)) = .ok t ∧
        ∀ params, t.expand params = .ok text := by
  refine ⟨fun t => ⟨?_, fun h => ⟨t.source, t.parse_source h⟩⟩,
    fun t => ⟨Template.normal_of_parse, t.parse_source⟩, fun text => ?_⟩
  · rintro ⟨text, h⟩
    exact Template.normal_of_parse h
  · refine ⟨_, parse_escapeBraces text.toList, fun params => ?_⟩
    rw [Template.expand_literals, String.ofList_toList]

/-- An escaped brace beside the brace of a variable, on either side. -/
example : (Template.mk [.literal "\x7b", .variable ⟨"a", .segment, some "b \x7b"⟩,
    .literal "\x7d"]).source = "\x7b\x7b\x7b/a=b \x7b\x7d\x7d\x7d" := by rfl

end Remap.Uri
