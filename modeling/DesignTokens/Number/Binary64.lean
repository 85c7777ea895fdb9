/-!
# Finite binary64 numbers

A `Binary64` is a sign and the remaining sixty-three bits of a finite double. Every value is a
whole number of *units* of `2 ^ -1074`, so all arithmetic is exact on integers and rounds once at
the end, to nearest with ties to even (`roundQuotient`). A result too large for the format is
`none`. Powers are written as `Nat.pow`: the operator means another instance once Mathlib is in
scope.
-/

set_option autoImplicit false

namespace DesignTokens

/-- The bits of positive infinity: the least magnitude that is not finite. -/
def infiniteMagnitude : Nat := 0x7FF0000000000000

/-- A finite double: its sign and its other sixty-three bits. -/
structure Binary64 where
  negative : Bool
  magnitude : Nat
  magnitude_lt : magnitude < infiniteMagnitude
deriving DecidableEq

namespace Binary64

/-- Positive zero. -/
def zero : Binary64 := ⟨false, 0, by decide⟩

instance : Inhabited Binary64 := ⟨zero⟩

instance : Repr Binary64 where
  reprPrec x _ := "⟨" ++ repr x.negative ++ ", " ++ repr x.magnitude ++ "⟩"

/-- The number with these bits, if they stand for a finite one. -/
def ofBits? (negative : Bool) (magnitude : Nat) : Option Binary64 :=
  if h : magnitude < infiniteMagnitude then some ⟨negative, magnitude, h⟩ else none

/-- The absolute value, counted in units of `2 ^ -1074`. -/
def units (x : Binary64) : Nat :=
  let exponent := x.magnitude / Nat.pow 2 52
  let fraction := x.magnitude % Nat.pow 2 52
  -- subnormal numbers have no leading bit
  if exponent = 0 then fraction else (Nat.pow 2 52 + fraction) * Nat.pow 2 (exponent - 1)

/-- The value, counted in units of `2 ^ -1074`. -/
def signedUnits (x : Binary64) : Int :=
  if x.negative then -(x.units : Int) else x.units

/-- The quotient rounded to the nearest integer, ties to even. -/
def roundQuotient (numerator denominator : Nat) : Nat :=
  let quotient := numerator / denominator
  match compare (2 * (numerator % denominator)) denominator with
  | .lt => quotient
  | .gt => quotient + 1
  | .eq => quotient + quotient % 2

/-- The bits of the double nearest to `numerator / denominator` units. From `2 ^ 53` units on, the
numbers of one binade lie `2 ^ shift` units apart; below, every whole number of units is a double.
Rounding up past the end of a binade carries into the exponent as it should. -/
def nearestMagnitude (numerator denominator : Nat) : Nat :=
  let shift := (numerator / denominator).log2 - 52
  roundQuotient numerator (denominator * Nat.pow 2 shift) + shift * Nat.pow 2 52

/-- The double nearest to a ratio of units, with the given sign. -/
def ofUnitRatio? (negative : Bool) (numerator denominator : Nat) : Option Binary64 :=
  ofBits? negative (nearestMagnitude numerator denominator)

/-- The double nearest to `numerator / denominator`, with the given sign. -/
def ofRatio? (negative : Bool) (numerator denominator : Nat) : Option Binary64 :=
  ofUnitRatio? negative (numerator * Nat.pow 2 1074) denominator

/-- The double nearest to an integer. -/
def ofInt? (i : Int) : Option Binary64 :=
  ofRatio? (i < 0) i.natAbs 1

/-- The double nearest to `digits * 10 ^ exponent`. -/
def ofDecimal? (negative : Bool) (digits : Nat) (exponent : Int) : Option Binary64 :=
  if exponent < 0 then ofRatio? negative digits (Nat.pow 10 (-exponent).toNat)
  else ofRatio? negative (digits * Nat.pow 10 exponent.toNat) 1

/-- Whether the value is zero, of either sign. -/
def isZero (x : Binary64) : Bool :=
  x.magnitude == 0

/-- The number with its sign changed. -/
def neg (x : Binary64) : Binary64 :=
  { x with negative := !x.negative }

/-- The product, rounded. -/
def mul? (x y : Binary64) : Option Binary64 :=
  ofUnitRatio? (x.negative != y.negative) (x.units * y.units) (Nat.pow 2 1074)

/-- The quotient, rounded; `none` for a divisor of zero as well. -/
def div? (x y : Binary64) : Option Binary64 :=
  if y.isZero then none else ofRatio? (x.negative != y.negative) x.units y.units

/-- The sum, rounded. An exact zero is negative only if both terms are. -/
def add? (x y : Binary64) : Option Binary64 :=
  let sum := x.signedUnits + y.signedUnits
  -- no rounding can make a sum zero that is not
  let negative := if sum = 0 then x.negative && y.negative else decide (sum < 0)
  ofUnitRatio? negative sum.natAbs 1

/-- The difference, rounded. -/
def sub? (x y : Binary64) : Option Binary64 :=
  x.add? y.neg

/-- The remainder of the division that truncates, which has the sign of `x`; `none` for a divisor
of zero. It is always a double, so nothing is rounded. -/
def rem? (x y : Binary64) : Option Binary64 :=
  if y.isZero then none else ofUnitRatio? x.negative (x.units % y.units) 1

/-- The integer of this value, if it is one. -/
def toInt? (x : Binary64) : Option Int :=
  if x.units % Nat.pow 2 1074 = 0 then
    let whole := (x.units / Nat.pow 2 1074 : Nat)
    some (if x.negative then -(whole : Int) else (whole : Int))
  else none

/-- The comparison of values, in which the two zeros are equal. -/
def compareValue (x y : Binary64) : Ordering :=
  compare x.signedUnits y.signedUnits

/-- The place of a number in the order of all doubles, in which negative zero comes before
positive zero. -/
def totalKey (x : Binary64) : Int :=
  if x.negative then -(x.magnitude : Int) - 1 else x.magnitude

/-- The order of all doubles by value and, for the zeros, by sign. -/
def compareTotal (x y : Binary64) : Ordering :=
  compare x.totalKey y.totalKey

end Binary64

end DesignTokens
