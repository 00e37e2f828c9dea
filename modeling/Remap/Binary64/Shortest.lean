import Remap.Binary64.Rounding

set_option relaxedAutoImplicit false
set_option autoImplicit false

/-!
# Shortest decimal text of a double

A double is written with the fewest decimal digits that read back as the same double; among those
the decimal nearest to it is taken, and of two equally near ones the even one. How the chosen
decimal is laid out on the page is a separate record.

## Main definitions

* `Remap.Binary64.shortest` — the chosen digits and their exponent.
* `Remap.Binary64.Layout` — where positional notation ends.
* `Remap.Binary64.Layout.write` — the text of a double.
-/

namespace Remap.Binary64

/-- A decimal `digits * 10 ^ exponent`. -/
structure Decimal where
  digits : Nat
  exponent : Int
  deriving DecidableEq, Repr

/-- The decimal without zeros at the end of its digits. -/
def Decimal.stripped (d : Decimal) : Decimal :=
  if _h : d.digits ≠ 0 ∧ d.digits % 10 = 0 then Decimal.stripped ⟨d.digits / 10, d.exponent + 1⟩
  else d
termination_by d.digits
decreasing_by omega

/-- Where the numbers that round to a double lie, in quarters of a unit. -/
structure Interval where
  low : Nat
  high : Nat
  /-- Whether the ends belong to it. -/
  closed : Bool

/-- Four times the units, a scale on which the middle between two neighbours is whole. -/
def quarters (x : Binary64) : Nat :=
  4 * x.units

/-- The interval that rounds to the double: half way to either neighbour. The lower neighbour of a
power of two is at half the distance. The ends are tied, so they belong to the even significand. -/
def interval (x : Binary64) : Interval :=
  let gap := Nat.pow 2 x.scale
  let below := if x.significand = Nat.pow 2 52 ∧ 0 < x.scale then gap else 2 * gap
  ⟨x.quarters - below, x.quarters + 2 * gap, x.significand % 2 = 0⟩

/-- The number of quarters of a unit in one. -/
def quartersPerOne : Nat :=
  4 * unitsPerOne

/-- The exponent of the least power of ten above the absolute value of a number other than zero. -/
def decimalExponent (x : Binary64) : Int :=
  if quartersPerOne ≤ x.quarters then decimalLength (x.quarters / quartersPerOne)
  else 1 - decimalLength ((quartersPerOne - 1) / x.quarters)

/-- The point of the grid `10 ^ exponent` nearest to the double among those that read back as the
same double, of two the even one; `none` if there is no such point. Only the two points around the
double need a look. -/
def onGrid? (x : Binary64) (exponent : Int) : Option Decimal :=
  let step := quartersPerOne * Nat.pow 10 exponent.toNat
  let stretch := Nat.pow 10 (-exponent).toNat
  let centre := x.quarters * stretch
  let low := x.interval.low * stretch
  let high := x.interval.high * stretch
  let inside (digits : Nat) : Bool :=
    if x.interval.closed then low ≤ digits * step && digits * step ≤ high
    else low < digits * step && digits * step < high
  let floor := centre / step
  let nearest := roundHalfEven centre step
  let other := if nearest = floor then floor + 1 else floor
  if inside nearest then some ⟨nearest, exponent⟩
  else if inside other then some ⟨other, exponent⟩
  else none

/-- The fewest digits that read back as the same double, the nearest of those. Seventeen always
suffice. -/
def shortest (x : Binary64) : Decimal :=
  let found := (List.range 17).findSome? fun (places : Nat) =>
    x.onGrid? (x.decimalExponent - (places + 1))
  (found.getD ⟨0, 0⟩).stripped

/-- Which numbers are written positionally, by the exponent of their first digit; all others are
written in scientific notation. -/
structure Layout where
  leastPositional : Int
  greatestPositional : Int

/-- The digits with a point after the first `places`, filled up with zeros on either side and never
without a fraction. -/
def positional (digits : List Char) (places : Int) : List Char :=
  if places ≤ 0 then
    ['0', '.'] ++ List.replicate (-places).toNat '0' ++ digits
  else
    let whole := digits.take places.toNat
    let fraction := digits.drop places.toNat
    whole ++ List.replicate (places.toNat - digits.length) '0' ++ ['.'] ++
      (if fraction.isEmpty then ['0'] else fraction)

/-- The first digit, a point before further ones, and the exponent with its sign. -/
def scientific (digits : List Char) (exponent : Int) : List Char :=
  let fraction := digits.drop 1
  digits.take 1 ++ (if fraction.isEmpty then [] else '.' :: fraction) ++
    ['e', if exponent < 0 then '-' else '+'] ++ Nat.toDigits 10 exponent.natAbs

/-- The text of a double: its shortest digits in the layout, a minus before them where the sign
bit is set, and `0.0` for zero. -/
def Layout.write (layout : Layout) (x : Binary64) : String :=
  let decimal := x.shortest
  let digits := Nat.toDigits 10 decimal.digits
  let exponent := decimal.exponent + digits.length - 1
  let body :=
    if x.isZero then ['0', '.', '0']
    else if layout.leastPositional ≤ exponent ∧ exponent ≤ layout.greatestPositional then
      positional digits (exponent + 1)
    else scientific digits exponent
  String.ofList (if x.negative then '-' :: body else body)

end Remap.Binary64
