set_option relaxedAutoImplicit false
set_option autoImplicit false

/-!
# Finite doubles

The finite doubles of 64 bits, given by a sign and by the place of the absolute value in the
increasing order of the nonnegative doubles. Every finite double is a whole multiple of the least
positive one, `2 ^ -1074`; counting in that unit makes all arithmetic on doubles exact arithmetic
on natural numbers.

## Main definitions

* `Remap.Binary64` — a finite double.
* `Remap.Binary64.units` — the absolute value as a multiple of `2 ^ -1074`.
-/

namespace Remap

/-- The number of nonnegative finite doubles. -/
def Binary64.count : Nat :=
  2047 * Nat.pow 2 52

/-- A finite double. -/
structure Binary64 where
  /-- The sign bit; zero has either sign. -/
  negative : Bool
  /-- The place of the absolute value among the nonnegative doubles in increasing order. -/
  magnitude : Nat
  /-- Infinities and NaNs are left out. -/
  finite : magnitude < Binary64.count
  deriving DecidableEq, Repr

namespace Binary64

/-- Zero with the given sign. -/
def zero (negative : Bool) : Binary64 :=
  ⟨negative, 0, by decide⟩

instance : Inhabited Binary64 :=
  ⟨zero false⟩

/-- Whether the number is zero, of either sign. -/
def isZero (x : Binary64) : Bool :=
  x.magnitude = 0

/-- The significand as a whole number: below `2 ^ 52` for subnormal numbers, and from `2 ^ 52` to
`2 ^ 53` for all others. -/
def significand (x : Binary64) : Nat :=
  if x.magnitude < Nat.pow 2 52 then x.magnitude
  else Nat.pow 2 52 + x.magnitude % Nat.pow 2 52

/-- The binary exponent above the least one; subnormal numbers share it with the first binade. -/
def scale (x : Binary64) : Nat :=
  x.magnitude / Nat.pow 2 52 - 1

/-- The absolute value as a multiple of `2 ^ -1074`. -/
def units (x : Binary64) : Nat :=
  x.significand * Nat.pow 2 x.scale

/-- The number of units in one. -/
def unitsPerOne : Nat :=
  Nat.pow 2 1074

end Binary64

end Remap
