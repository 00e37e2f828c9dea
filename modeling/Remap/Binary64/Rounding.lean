import Remap.Binary64.Basic

set_option relaxedAutoImplicit false
set_option autoImplicit false

/-!
# Rounding to doubles

A quotient of natural numbers is rounded to the nearest double, ties going to the even neighbour.
Products, quotients and decimals are rounded by stating their exact value as such a quotient.

## Main definitions

* `Remap.Binary64.ofRatio` — the double nearest to a quotient, if it is finite.
* `Remap.Binary64.ofDecimal` — the double nearest to `digits * 10 ^ exponent`.
* `Remap.Binary64.ofScaled` — `digits * 10 ^ exponent` computed in double arithmetic, every step
  rounded.
-/

namespace Remap.Binary64

/-- The whole number nearest to `num / den`, the even one of two. -/
def roundHalfEven (num den : Nat) : Nat :=
  let quotient := num / den
  let rest := num % den
  if 2 * rest < den then quotient
  else if den < 2 * rest then quotient + 1
  else quotient + quotient % 2

/-- The double with the given sign nearest to `num / den`, ties to even; `none` where it would be
infinite. The quotient is counted in units of the least double; the scale is chosen so that 53
bits remain, or fewer below the first binade, and a significand that rounds up to `2 ^ 53` carries
into the scale. -/
def ofRatio (negative : Bool) (num den : Nat) : Option Binary64 :=
  let units := num * unitsPerOne
  let scale := (units / den).log2 - 52
  let magnitude := scale * Nat.pow 2 52 + roundHalfEven units (den * Nat.pow 2 scale)
  if h : magnitude < count then some ⟨negative, magnitude, h⟩ else none

/-- The rounded product; its sign is that of the first factor. -/
def mul (x y : Binary64) : Option Binary64 :=
  ofRatio x.negative (x.units * y.units) (unitsPerOne * unitsPerOne)

/-- The rounded quotient; its sign is that of the dividend. -/
def div (x y : Binary64) : Option Binary64 :=
  ofRatio x.negative x.units y.units

/-- The double nearest to the natural number. -/
def ofNat (negative : Bool) (n : Nat) : Option Binary64 :=
  ofRatio negative n 1

/-- The number of decimal digits. -/
def decimalLength (n : Nat) : Nat :=
  (Nat.toDigits 10 n).length

/-- The double nearest to `digits * 10 ^ exponent`; `none` where it would be infinite. Exponents
that leave no doubt are settled without computing the power. -/
def ofDecimal (negative : Bool) (digits : Nat) (exponent : Int) : Option Binary64 :=
  if digits = 0 then some (zero negative)
  else if exponent + decimalLength digits > 310 then none
  else if exponent + decimalLength digits < -330 then some (zero negative)
  else ofRatio negative (digits * Nat.pow 10 exponent.toNat) (Nat.pow 10 (-exponent).toNat)

/-- The largest power of ten that is a double. -/
def greatestTenPower : Nat :=
  308

/-- The power of ten, rounded. -/
def tenPower (places : Nat) : Option Binary64 :=
  ofNat false (Nat.pow 10 places)

/-- Divides `steps` times by the largest power of ten and once by `10 ^ places`, every power and
every quotient rounded; zero stays what it is. -/
def divTenPowers (x : Binary64) (steps places : Nat) : Option Binary64 :=
  match steps with
  | 0 => (tenPower places).bind x.div
  | steps + 1 =>
    if x.isZero then some x
    else ((tenPower greatestTenPower).bind x.div).bind (divTenPowers · steps places)

/-- Divides by `10 ^ places`, at most `greatestTenPower` places at a time. -/
def divTenPower (x : Binary64) (places : Nat) : Option Binary64 :=
  let steps := (places - 1) / greatestTenPower
  x.divTenPowers steps (places - greatestTenPower * steps)

/-- `digits * 10 ^ exponent` computed in double arithmetic: the digits are rounded, then multiplied
or divided by rounded powers of ten. The result can differ from the nearest double in its last
place. `none` where a product would be infinite. -/
def ofScaled (negative : Bool) (digits : Nat) (exponent : Int) : Option Binary64 :=
  (ofNat negative digits).bind fun x =>
    if exponent < 0 then x.divTenPower (-exponent).toNat
    else if exponent ≤ greatestTenPower then (tenPower exponent.toNat).bind x.mul
    else if x.isZero then some x
    else none

end Remap.Binary64
