import DesignTokens.Number.Binary64

/-!
# The fewest digits that read back

`Binary64.shortest` selects the decimal that a number is written with: of all decimals that round
to the number those with the fewest digits, and of these the nearest to it. The search runs over
one decimal grid after another and tries the two neighbours of the value on each.
-/

set_option autoImplicit false

namespace DesignTokens

/-- The decimal `digits * 10 ^ exponent`. -/
structure Decimal where
  digits : Nat
  exponent : Int
deriving DecidableEq, Repr

/-- Which of two equally near decimals of the same length is taken. -/
inductive Tie where
  /-- The one whose last digit is even. -/
  | toEven
  /-- The greater one. -/
  | up
deriving DecidableEq, Repr

namespace Binary64

/-- Whether a decimal rounds to this positive number. Both the decimal and the ends of the
interval that rounds to the number are compared in quarters of a unit, scaled by `10 ^ scale`. The
ends belong to the interval when the last bit of the number is zero; below a power of two the
interval reaches only half as far. -/
def readsBack (x : Binary64) (digits : Nat) (exponent : Int) : Bool :=
  -- the distance to the next number, in units; for subnormal numbers the exponent stops at zero
  let spacing := Nat.pow 2 (x.magnitude / Nat.pow 2 52 - 1)
  let narrow := x.magnitude % Nat.pow 2 52 = 0 && Nat.pow 2 52 < x.magnitude
  let value := 4 * x.units
  let low := value - (if narrow then spacing else 2 * spacing)
  let high := value + 2 * spacing
  let scale := Nat.pow 10 (-exponent).toNat
  let candidate := 4 * digits * Nat.pow 10 exponent.toNat * Nat.pow 2 1074
  let even := x.magnitude % 2 = 0
  (low * scale < candidate || (even && low * scale = candidate)) &&
    (candidate < high * scale || (even && candidate = high * scale))

/-- The least `k` with the value below `10 ^ k`, counted up from a first guess. -/
def decimalScale (x : Binary64) : (guess : Int) → (tries : Nat) → Int
  | guess, 0 => guess
  | guess, tries + 1 =>
    if x.units * Nat.pow 10 (-guess).toNat < Nat.pow 10 guess.toNat * Nat.pow 2 1074 then guess
    else decimalScale x (guess + 1) tries

/-- The neighbour of the value on the grid of `10 ^ exponent` that rounds to it, if one does; of
two the nearer. -/
def onGrid? (x : Binary64) (tie : Tie) (exponent : Int) : Option Decimal :=
  let numerator := x.units * Nat.pow 10 (-exponent).toNat
  let denominator := Nat.pow 10 exponent.toNat * Nat.pow 2 1074
  let below := numerator / denominator
  -- on a coarse grid the lower neighbour is zero, which stands for no positive number
  let lowerFits := x.readsBack below exponent && below ≠ 0
  let upperFits := x.readsBack (below + 1) exponent
  if lowerFits && upperFits then
    match compare (2 * (numerator % denominator)) denominator, tie with
    | .lt, _ => some ⟨below, exponent⟩
    | .gt, _ => some ⟨below + 1, exponent⟩
    | .eq, .up => some ⟨below + 1, exponent⟩
    | .eq, .toEven => some ⟨below + below % 2, exponent⟩
  else if lowerFits then some ⟨below, exponent⟩
  else if upperFits then some ⟨below + 1, exponent⟩
  else none

/-- The first decimal found on grids of decreasing width. -/
def searchGrids (x : Binary64) (tie : Tie) : (exponent : Int) → (tries : Nat) → Option Decimal
  | _, 0 => none
  | exponent, tries + 1 => x.onGrid? tie exponent <|> searchGrids x tie (exponent - 1) tries

/-- A decimal without the zeros at the end of its digits, of which at most `tries` are dropped. -/
def dropZeros (decimal : Decimal) : (tries : Nat) → Decimal
  | 0 => decimal
  | tries + 1 =>
    if decimal.digits % 10 = 0 && decimal.digits ≠ 0 then
      dropZeros ⟨decimal.digits / 10, decimal.exponent + 1⟩ tries
    else decimal

/-- The absolute value as the shortest decimal that reads back to it. Seventeen digits always
suffice; the exact decimal stands in the unreachable place. -/
def shortest (x : Binary64) (tie : Tie) : Decimal :=
  if x.isZero then ⟨0, 0⟩
  else
    -- the logarithm of two to the base ten is just below 30103 / 100000
    let guess := ((x.units.log2 : Int) - 1075) * 30103 / 100000 - 1
    let scale := x.decimalScale guess 4
    match x.searchGrids tie (scale - 1) 18 with
    | some decimal => dropZeros decimal 400
    | none => ⟨x.units * Nat.pow 5 1074, -1074⟩

end Binary64

end DesignTokens
