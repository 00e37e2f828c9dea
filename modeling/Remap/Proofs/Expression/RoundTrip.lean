import Remap.Expression.Source
import Remap.Proofs.Expression.Completeness

set_option relaxedAutoImplicit false
set_option autoImplicit false

/-!
# Reading the source of an expression

The source that is written for an expression is one of its sources, whatever its names are made of:
blanks, dots, brackets, quotes and backslashes included. A name that is an identifier stands behind
a point. Any other name stands between quotes, where every quote and every backslash of the name
takes a backslash before it and every other character stands for itself. So the source is read back
as the same expression.

## Main results

* `Remap.Expression.quotes_escapeName` — an escaped name spells the name between quotes.
* `Remap.Expression.spells_source` — the source of an expression spells it.
* `Remap.Expression.parse_source` — the source of an expression is read as that expression.
-/

namespace Remap.Expression

open Remap.Text (Blanks)

/-- An escaped name spells the name between single quotes, quotes and backslashes included. -/
theorem quotes_escapeName (name : List Char) : Quotes '\x27' name (escapeName name) := by
  induction name with
  | nil => exact .nil
  | cons c rest ih =>
    rw [escapeName]
    by_cases hspecial : c = '\x27' ∨ c = '\\'
    · rw [if_pos hspecial]
      exact .escaped c ih
    · rw [if_neg hspecial]
      rw [not_or] at hspecial
      exact .plain hspecial.1 hspecial.2 ih

/-- The digits of an index spell it between brackets. -/
theorem Accessor.spellsContent_toDigits (position : UInt64) :
    (Accessor.index position).SpellsContent (Nat.toDigits 10 position.toNat) := by
  have hdigits : ∀ c ∈ Nat.toDigits 10 position.toNat, c.isDigit = true := fun c hc =>
    Nat.isDigit_of_mem_toDigits (by decide) (by decide) hc
  have hvalue : Nat.ofDigitChars 10 (Nat.toDigits 10 position.toNat) 0 = position.toNat :=
    Nat.ofDigitChars_ten_toDigits
  have hspells := SpellsContent.digits Nat.toDigits_ne_nil hdigits
    (by rw [hvalue]; exact position.toNat_lt_size)
  rwa [hvalue, UInt64.ofNat_toNat] at hspells

/-- The source of an accessor spells it. -/
theorem Accessor.spells_source (a : Accessor) : a.Spells a.source := by
  have hnone : Blanks [] := by simp [Blanks]
  cases a with
  | member name =>
    rw [source]
    by_cases hname : isIdentifier name.toList = true
    · rw [if_pos hname]
      have hspells := Spells.point hname
      rwa [String.ofList_toList] at hspells
    · rw [if_neg hname]
      have hcontent := SpellsContent.name (.inl rfl) (quotes_escapeName name.toList)
      rw [String.ofList_toList] at hcontent
      have hspells := Spells.brackets hnone hcontent hnone
      simpa using hspells
  | index position =>
    have hspells := Spells.brackets hnone (spellsContent_toDigits position) hnone
    simpa [source] using hspells

/-- The sources of accessors one after the other spell them. -/
theorem accessorsSpell_source (as : List Accessor) :
    AccessorsSpell as (as.flatMap Accessor.source) := by
  have hnone : Blanks [] := by simp [Blanks]
  induction as with
  | nil => exact .nil hnone
  | cons a rest ih =>
    rw [List.flatMap_cons]
    exact .cons hnone a.spells_source ih

/-- The source of an expression spells it. -/
theorem spells_source (e : Expression) : e.Spells e.source.toList := by
  have hnone : Blanks [] := by simp [Blanks]
  rw [source, String.toList_ofList]
  exact .mk hnone e.root (accessorsSpell_source e.accessors)

/-- **The source of an expression is read as that expression.**

**Proof sketch.** It spells the expression (`spells_source`), and the parser reads what spells an
expression as that expression (`parse_eq_ok_iff_spells`). -/
theorem parse_source (e : Expression) : parse e.source = .ok e :=
  parse_eq_ok_iff_spells.2 e.spells_source

end Remap.Expression
