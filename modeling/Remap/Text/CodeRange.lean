set_option relaxedAutoImplicit false
set_option autoImplicit false

/-!
# Ranges of code points

Character properties are given as tables of inclusive ranges of code points.

## Main definitions

* `Remap.Text.inRanges` — membership of a character in such a table.

## Main results

* `Remap.Text.inRanges_eq_false_of_inRanges` — a character lies in one of two disjoint tables only.
-/

namespace Remap.Text

/-- Whether the code point of the character lies in one of the inclusive ranges. -/
def inRanges (ranges : List (Nat × Nat)) (c : Char) : Bool :=
  ranges.any fun (low, high) => low ≤ c.toNat && c.toNat ≤ high

/-- A character lies in a table when its code point lies in a range of it. -/
theorem inRanges_iff {ranges : List (Nat × Nat)} {c : Char} :
    inRanges ranges c = true ↔ ∃ range ∈ ranges, range.1 ≤ c.toNat ∧ c.toNat ≤ range.2 := by
  simp [inRanges]

/-- A character lies in one of two disjoint tables only. -/
theorem inRanges_eq_false_of_inRanges {ranges others : List (Nat × Nat)}
    (hdisjoint : ∀ range ∈ ranges, ∀ other ∈ others, range.2 < other.1 ∨ other.2 < range.1)
    {c : Char} (h : inRanges ranges c = true) : inRanges others c = false := by
  rw [Bool.eq_false_iff]
  intro hother
  obtain ⟨range, hrange, hlow, hhigh⟩ := inRanges_iff.1 h
  obtain ⟨other, hmem, hlow', hhigh'⟩ := inRanges_iff.1 hother
  rcases hdisjoint range hrange other hmem with hlt | hlt <;> omega

end Remap.Text
