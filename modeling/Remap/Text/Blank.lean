import Remap.Text.CodeRange

set_option relaxedAutoImplicit false
set_option autoImplicit false

/-!
# Blank characters

The characters with the property White_Space, and the removal of blanks around a text.

## Main definitions

* `Remap.Text.isBlank` — the class of blanks; `Remap.Text.Blanks` — a text of blanks only.
* `Remap.Text.trim` — a list of characters without the blanks at its ends; `Remap.Text.Trimmed` — a
  text without blanks at its ends.

## Main results

* `Remap.Text.trim_eq_iff` — a text is what is trimmed and the blanks around it.
-/

namespace Remap.Text

/-- The characters with the property White_Space, as inclusive ranges in increasing order. -/
def blankRanges : List (Nat × Nat) := [
  (0x9, 0xd), (0x20, 0x20), (0x85, 0x85), (0xa0, 0xa0), (0x1680, 0x1680), (0x2000, 0x200a),
  (0x2028, 0x2029), (0x202f, 0x202f), (0x205f, 0x205f), (0x3000, 0x3000)]

/-- Whether the character has the property White_Space. -/
def isBlank (c : Char) : Bool :=
  inRanges blankRanges c

/-- A text of blanks only. -/
def Blanks (s : List Char) : Prop :=
  ∀ c ∈ s, isBlank c = true

/-- A text that neither starts nor ends with a blank. -/
def Trimmed (s : List Char) : Prop :=
  (∀ c ∈ s.head?, isBlank c = false) ∧ ∀ c ∈ s.getLast?, isBlank c = false

/-- The text without the blanks at its start. -/
def trimStart (s : List Char) : List Char :=
  s.dropWhile isBlank

/-- The text without the blanks at its end. -/
def trimEnd (s : List Char) : List Char :=
  (trimStart s.reverse).reverse

/-- The text without the blanks at either end. -/
def trim (s : List Char) : List Char :=
  trimEnd (trimStart s)

/-! ## What trimming takes away -/

/-- Two texts of blanks make one. -/
theorem Blanks.append {v w : List Char} (hv : Blanks v) (hw : Blanks w) : Blanks (v ++ w) := by
  intro c hc
  rcases List.mem_append.1 hc with hc | hc
  · exact hv c hc
  · exact hw c hc

/-- The text behind its leading blanks does not start with a blank. -/
theorem trimStart_eq_iff {s t : List Char} :
    trimStart s = t ↔ (∀ c ∈ t.head?, isBlank c = false) ∧ ∃ v, Blanks v ∧ s = v ++ t := by
  constructor
  · rintro rfl
    refine ⟨?_, s.takeWhile isBlank, ?_, ?_⟩
    · intro c hc
      have hstop := List.head?_dropWhile_not isBlank s
      rw [show (s.dropWhile isBlank).head? = some c from hc] at hstop
      exact hstop
    · exact List.all_eq_true.1 List.all_takeWhile
    · exact List.takeWhile_append_dropWhile.symm
  · rintro ⟨hstop, v, hv, rfl⟩
    rw [trimStart, List.dropWhile_append_of_pos hv]
    cases t with
    | nil => rfl
    | cons c rest => exact List.dropWhile_cons_of_neg (by simp [hstop c rfl])

/-- The text before its trailing blanks does not end with a blank. -/
theorem trimEnd_eq_iff {s t : List Char} :
    trimEnd s = t ↔ (∀ c ∈ t.getLast?, isBlank c = false) ∧ ∃ w, Blanks w ∧ s = t ++ w := by
  rw [trimEnd, List.reverse_eq_iff, trimStart_eq_iff, List.head?_reverse]
  refine and_congr_right fun _ => ⟨?_, ?_⟩
  · rintro ⟨v, hv, hs⟩
    refine ⟨v.reverse, fun c hc => hv c (List.mem_reverse.1 hc), ?_⟩
    simpa using congrArg List.reverse hs
  · rintro ⟨w, hw, rfl⟩
    exact ⟨w.reverse, fun c hc => hw c (List.mem_reverse.1 hc), List.reverse_append⟩

/-- **A text is what is trimmed and the blanks around it.** -/
theorem trim_eq_iff {s core : List Char} :
    trim s = core ↔ Trimmed core ∧ ∃ v w, Blanks v ∧ Blanks w ∧ s = v ++ core ++ w := by
  constructor
  · intro h
    obtain ⟨hend, w, hw, hcore⟩ := trimEnd_eq_iff.1 h
    obtain ⟨hstart, v, hv, hs⟩ := trimStart_eq_iff.1 (rfl : trimStart s = trimStart s)
    refine ⟨⟨?_, hend⟩, v, w, hv, hw, ?_⟩
    · intro c hc
      exact hstart c (by rw [hcore, List.head?_append, hc, Option.some_or]; rfl)
    · rw [List.append_assoc, ← hcore, ← hs]
  · rintro ⟨⟨hstart, hend⟩, v, w, hv, hw, rfl⟩
    rw [trim, trimEnd_eq_iff]
    refine ⟨hend, ?_⟩
    cases core with
    | nil =>
      -- Nothing but blanks is left: they all count as leading ones.
      refine ⟨[], by simp [Blanks], trimStart_eq_iff.2 ⟨by simp, v ++ w, hv.append hw, ?_⟩⟩
      simp
    | cons c rest =>
      exact ⟨w, hw, trimStart_eq_iff.2 ⟨hstart, v, hv, List.append_assoc ..⟩⟩

end Remap.Text
