set_option relaxedAutoImplicit false
set_option autoImplicit false

/-!
# Outcomes

A function that may fail hands on what another one returns, changed in some way. The outcome is then
known from that of the other one.

## Main results

* `Remap.map_eq_ok_iff`, `Remap.map_eq_error_iff` — the two outcomes of a changed result.
-/

namespace Remap

variable {α β ε : Type}

/-- A result that has been changed was there before. -/
theorem map_eq_ok_iff {f : α → β} {x : Except ε α} {y : β} :
    x.map f = .ok y ↔ ∃ z, x = .ok z ∧ f z = y := by
  cases x <;> simp [Except.map]

/-- Changing a result keeps its error. -/
theorem map_eq_error_iff {f : α → β} {x : Except ε α} {e : ε} :
    x.map f = .error e ↔ x = .error e := by
  cases x <;> simp [Except.map]

end Remap
