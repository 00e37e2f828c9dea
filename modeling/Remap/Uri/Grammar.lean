import Remap.Text.Alphanumeric
import Remap.Uri.Template

set_option relaxedAutoImplicit false
set_option autoImplicit false

/-!
# The grammar of URI templates

A template text is a sequence of items: a doubled brace, which stands for one brace, any other
character but a brace, which stands for itself, and variables in braces. Runs of characters between
variables become literals. A variable is an operator sign, a name without blanks between the two,
and optionally a default value after an equals sign; blanks may stand before the sign, behind the
name and around the default. The grammar is said here by relations between templates and their
texts; many texts spell one template.

## Main definitions

* `Remap.Uri.Variable.Spells`, `Remap.Uri.Item.Spells` — the texts of a variable and of an item.
* `Remap.Uri.Part.Merges` — the parts that a sequence of items makes.
* `Remap.Uri.Template.Spells` — the texts of a template.

## Main results

* `Remap.Uri.Item.Spells.ne_nil` — an item takes at least one character.
-/

namespace Remap.Uri

open Remap.Text (Blanks Trimmed isAlphanumeric)

/-- The characters of a variable name. -/
def isNameChar (c : Char) : Bool :=
  isAlphanumeric c || c = '_' || c = '-' || c = '.'

/-- What a template text is made of. -/
inductive Item where
  | char (c : Char)
  | variable (value : Variable)
  deriving DecidableEq, Repr

/-! ## Texts -/

/-- The sign of an operator. -/
def Operator.sign : Operator → List Char
  | .simple => []
  | .reserved => ['+']
  | .segment => ['/']

/-- `FallbackSpells fallback s` says that `s` announces the default value, if there is one: an
equals sign and the value, which holds no closing brace, with blanks around it. -/
inductive FallbackSpells : Option String → List Char → Prop
  | none : FallbackSpells none []
  | some {before text after : List Char} (hbefore : Blanks before) (htext : Trimmed text)
      (hclosing : '}' ∉ text) (hafter : Blanks after) :
      FallbackSpells (some (String.ofList text)) ('=' :: (before ++ (text ++ after)))

/-- `v.Spells s` says that `s` is a text of the variable, from its opening to its closing brace. -/
inductive Variable.Spells : Variable → List Char → Prop
  | mk {before name after announced : List Char} (hbefore : Blanks before) (operator : Operator)
      (hne : name ≠ []) (hname : ∀ c ∈ name, isNameChar c = true) (hafter : Blanks after)
      {fallback : Option String} (hfallback : FallbackSpells fallback announced) :
      Spells ⟨String.ofList name, operator, fallback⟩
        ('{' :: (before ++ (operator.sign ++ (name ++ (after ++ (announced ++ ['}']))))))

/-- `i.Spells s` says that `s` is a text of the item. -/
inductive Item.Spells : Item → List Char → Prop
  | openingBrace : Spells (.char '{') ['{', '{']
  | closingBrace : Spells (.char '}') ['}', '}']
  | char {c : Char} (hopening : c ≠ '{') (hclosing : c ≠ '}') : Spells (.char c) [c]
  | ofVariable {v : Variable} {s : List Char} (h : v.Spells s) : Spells (.variable v) s

/-- `ItemsSpell items s` says that `s` is made of texts of the items, one after the other. -/
inductive ItemsSpell : List Item → List Char → Prop
  | nil : ItemsSpell [] []
  | cons {item : Item} {items : List Item} {own rest : List Char} (h : item.Spells own)
      (hrest : ItemsSpell items rest) : ItemsSpell (item :: items) (own ++ rest)

namespace Part

/-- The literal of a run of characters; there is none where the run is empty. -/
def literals (run : List Char) : List Part :=
  if run = [] then [] else [.literal (String.ofList run)]

/-- `Merges parts items` says that the parts are the variables among the items, in order, with one
literal for each longest run of characters before, between and behind them. -/
inductive Merges : List Part → List Item → Prop
  | last (run : List Char) : Merges (literals run) (run.map .char)
  | cons (run : List Char) (v : Variable) {parts : List Part} {items : List Item}
      (h : Merges parts items) :
      Merges (literals run ++ .variable v :: parts) (run.map .char ++ .variable v :: items)

end Part

/-- `t.Spells s` says that `s` is a text of the template. -/
def Template.Spells (t : Template) (s : List Char) : Prop :=
  ∃ items, ItemsSpell items s ∧ Part.Merges t.parts items

/-- An item takes at least one character. -/
theorem Item.Spells.ne_nil {i : Item} {s : List Char} (h : i.Spells s) : s ≠ [] := by
  cases h with
  | openingBrace => simp
  | closingBrace => simp
  | char => simp
  | ofVariable h => cases h; simp

end Remap.Uri
