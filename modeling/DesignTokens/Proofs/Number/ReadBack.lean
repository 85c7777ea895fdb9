import DesignTokens.Number.Decimal
import Mathlib.Tactic.Ring

/-!
# Decimals that read back

A decimal that passes `readsBack` is rounded to the number that it was tested against
(`ofDecimal?_of_readsBack`). The test compares the decimal with the ends of an interval, and reading
divides, finds the binade of the quotient and rounds there. Both are brought to `Within`, which
speaks of the significand of the number and of quarters of the distance between two numbers.
`readsBack_shortest` says that the decimal a number is written with is one of these.
-/

set_option autoImplicit false

namespace DesignTokens.Binary64

/-! ### Significands -/

section
variable (x : Binary64)

/-- The power of two that the numbers of this binade lie apart. -/
def binade : Nat :=
  x.magnitude / Nat.pow 2 52 - 1

/-- The value divided by the distance of the numbers of its binade. -/
def significand : Nat :=
  if x.magnitude / Nat.pow 2 52 = 0 then x.magnitude % Nat.pow 2 52
  else Nat.pow 2 52 + x.magnitude % Nat.pow 2 52

/-- A finite number in units of the finest grid: its significand, moved up by its binade. -/
theorem units_eq : x.units = x.significand * 2 ^ x.binade := by
  rw [units, significand, binade]
  split
  case isTrue hzero => simp [hzero]
  case isFalse => rfl

/-- The bits without the sign, put together again from significand and binade. -/
theorem magnitude_eq : x.magnitude = x.significand + x.binade * 2 ^ 52 := by
  have hsplit := Nat.div_add_mod x.magnitude (2 ^ 52)
  rw [significand, binade, Nat.pow_eq]
  split <;> omega

/-- A significand has at most 53 bits. -/
theorem significand_lt : x.significand < 2 ^ 53 := by
  have hfraction := Nat.mod_lt x.magnitude (Nat.two_pow_pos 52)
  rw [significand, Nat.pow_eq]
  split <;> omega

/-- Only zero has the significand zero. -/
theorem significand_ne_zero (h : x.isZero = false) : x.significand ≠ 0 := by
  have hnonzero : x.magnitude ≠ 0 := by simpa [isZero] using h
  have hsplit := Nat.div_add_mod x.magnitude (2 ^ 52)
  rw [significand, Nat.pow_eq]
  split <;> omega

/-- Above the lowest binade the leading bit is set. -/
theorem le_significand (h : x.binade ≠ 0) : 2 ^ 52 ≤ x.significand := by
  rw [binade, Nat.pow_eq] at h
  rw [significand, Nat.pow_eq]
  split <;> omega

/-- Whether the number is a power of two below which the numbers lie closer. -/
def Narrow : Prop :=
  x.significand = 2 ^ 52 ∧ x.binade ≠ 0

instance : Decidable x.Narrow :=
  inferInstanceAs (Decidable (_ ∧ _))

/-- The gap below a number is half as wide exactly at the powers of two, where no bits are left
behind the leading one. -/
theorem narrow_iff :
    x.Narrow ↔ x.magnitude % Nat.pow 2 52 = 0 ∧ Nat.pow 2 52 < x.magnitude := by
  have hsplit := Nat.div_add_mod x.magnitude (2 ^ 52)
  have hfraction := Nat.mod_lt x.magnitude (Nat.two_pow_pos 52)
  rw [Narrow, significand, binade, Nat.pow_eq]
  split <;> omega

end

/-! ### Rounding -/

/-- `numerator / unit` is at most half above `m`, and at most `margin` quarters below. The ends
count if `m` is even. -/
structure Within (m margin unit numerator : Nat) : Prop where
  lower : 4 * (m * unit) ≤ 4 * numerator + margin * unit
  upper : 4 * numerator ≤ 4 * (m * unit) + 2 * unit
  inside : m % 2 = 1 → 4 * (m * unit) < 4 * numerator + margin * unit ∧
    4 * numerator < 4 * (m * unit) + 2 * unit

namespace Within

variable {m margin unit numerator : Nat}

/-- A common factor makes no difference, in the unit and in the numerator. -/
theorem mul_iff {factor : Nat} (h : 0 < factor) :
    Within m margin (factor * unit) (factor * numerator) ↔ Within m margin unit numerator := by
  -- both sides of each bound have the factor
  have hm : 4 * (m * (factor * unit)) = factor * (4 * (m * unit)) := by ring
  have hn : 4 * (factor * numerator) = factor * (4 * numerator) := by ring
  have hlow : factor * (4 * numerator) + margin * (factor * unit) =
      factor * (4 * numerator + margin * unit) := by ring
  have hhigh : factor * (4 * (m * unit)) + 2 * (factor * unit) =
      factor * (4 * (m * unit) + 2 * unit) := by ring
  constructor
  · rintro ⟨hlower, hupper, hinside⟩
    rw [hm, hn, hlow, hhigh] at hinside
    rw [hm, hn, hlow] at hlower
    rw [hm, hn, hhigh] at hupper
    refine ⟨Nat.le_of_mul_le_mul_left hlower h, Nat.le_of_mul_le_mul_left hupper h, ?_⟩
    exact fun hodd => (hinside hodd).imp Nat.lt_of_mul_lt_mul_left Nat.lt_of_mul_lt_mul_left
  · rintro ⟨hlower, hupper, hinside⟩
    constructor
    case lower => rw [hm, hn, hlow]; exact Nat.mul_le_mul_left _ hlower
    case upper => rw [hm, hn, hhigh]; exact Nat.mul_le_mul_left _ hupper
    case inside =>
      rw [hm, hn, hlow, hhigh]
      exact fun hodd => (hinside hodd).imp (Nat.mul_lt_mul_of_pos_left · h)
        (Nat.mul_lt_mul_of_pos_left · h)

/-- A wider margin admits more. -/
theorem mono {wider : Nat} (h : Within m margin unit numerator) (hle : margin ≤ wider) :
    Within m wider unit numerator := by
  have hunit := Nat.mul_le_mul_right unit hle
  obtain ⟨hlower, hupper, hinside⟩ := h
  exact ⟨by omega, hupper, fun hodd => ⟨by have := hinside hodd; omega, (hinside hodd).2⟩⟩

/-- What lies within half on either side rounds to `m`. A tie goes to the even one, which is why the
ends of the interval belong to it only then. -/
theorem roundQuotient_eq (h : Within m 2 unit numerator) (hunit : 0 < unit) :
    roundQuotient numerator unit = m := by
  obtain ⟨hlower, hupper, hinside⟩ := h
  have hsplit := Nat.div_add_mod numerator unit
  have hrest := Nat.mod_lt numerator hunit
  rw [roundQuotient]
  generalize numerator / unit = quotient at *
  generalize numerator % unit = rest at *
  -- the quotient is `m` or one less, because anything else lies more than half away
  have hle : quotient ≤ m := by
    by_contra hlt
    have := Nat.mul_le_mul_left unit (Nat.succ_le_of_lt (Nat.lt_of_not_le hlt))
    rw [Nat.mul_succ, Nat.mul_comm unit m] at this
    omega
  have hge : m ≤ quotient + 1 := by
    by_contra hlt
    have := Nat.mul_le_mul_left unit (Nat.succ_le_of_lt (Nat.lt_of_not_le hlt))
    rw [Nat.mul_succ, Nat.mul_succ, Nat.mul_comm unit m] at this
    omega
  rw [Nat.mul_comm] at hsplit
  -- the rest decides which of the two it is, and a tie goes to the even one
  obtain rfl | rfl : m = quotient ∨ m = quotient + 1 := by omega
  · rcases Nat.lt_or_eq_of_le (show 2 * rest ≤ unit by omega) with hlt | heq
    · simp only [Nat.compare_eq_lt.2 hlt]
    · simp only [Nat.compare_eq_eq.2 heq]
      omega
  · rw [Nat.succ_mul quotient] at hlower hinside
    rcases Nat.lt_or_eq_of_le (show unit ≤ 2 * rest by omega) with hlt | heq
    · simp only [Nat.compare_eq_gt.2 hlt]
    · simp only [Nat.compare_eq_eq.2 heq.symm]
      omega

/-- A numerator below the binade of `m` is only near if `m` begins the binade, and then it is near
to the end of the binade before, where the unit is half as large. -/
theorem halve (h : Within m margin (2 * unit) numerator) (hm : 2 ^ 52 ≤ m)
    (hmargin : margin = if m = 2 ^ 52 then 1 else 2) (hbelow : numerator < 2 ^ 53 * unit) :
    m = 2 ^ 52 ∧ Within (2 ^ 53) 2 unit numerator := by
  obtain ⟨hlower, hupper, -⟩ := h
  have hfirst : m = 2 ^ 52 := by
    by_contra hne
    have hnext : (2 ^ 52 + 1) * (2 * unit) ≤ m * (2 * unit) := Nat.mul_le_mul_right _ (by omega)
    rw [hmargin, if_neg hne] at hlower
    omega
  rw [hmargin, if_pos hfirst, hfirst] at hlower
  exact ⟨hfirst, by omega, by omega, by omega⟩

/-- The ends of the interval, scaled. The program compares whole numbers in units of the spacing,
and this brings its two comparisons into the form of `Within`. -/
theorem iff_ends {spacing scale : Nat} (h : margin ≤ 2) :
    ((4 * (m * spacing) - margin * spacing) * scale < 4 * numerator ∨
          m % 2 = 0 ∧ (4 * (m * spacing) - margin * spacing) * scale = 4 * numerator) ∧
        (4 * numerator < (4 * (m * spacing) + 2 * spacing) * scale ∨
          m % 2 = 0 ∧ 4 * numerator = (4 * (m * spacing) + 2 * spacing) * scale) ↔
      Within m margin (spacing * scale) numerator := by
  have hhigh : (4 * (m * spacing) + 2 * spacing) * scale =
      4 * (m * (spacing * scale)) + 2 * (spacing * scale) := by ring
  have hlow : (4 * (m * spacing) - margin * spacing) * scale =
      4 * (m * (spacing * scale)) - margin * (spacing * scale) := by
    rw [Nat.sub_mul]
    congr 1 <;> ring
  rw [hhigh, hlow]
  generalize spacing * scale = unit
  -- zero is even, and its interval begins at zero
  have hle : m % 2 = 0 ∧ m * unit = 0 ∨ margin * unit ≤ 4 * (m * unit) := by
    rcases Nat.eq_zero_or_pos m with rfl | hpos
    · exact .inl (by simp)
    · rw [← Nat.mul_assoc 4]
      exact .inr (Nat.mul_le_mul_right _ (by omega))
  constructor
  · rintro ⟨hlower, hupper⟩
    exact ⟨by omega, by omega, by omega⟩
  · rintro ⟨hlower, hupper, hinside⟩
    omega

end Within

/-- A quotient below a power of two is shifted by nothing. -/
theorem shift_eq_zero {quotient : Nat} (h : quotient < 2 ^ 53) : quotient.log2 - 52 = 0 := by
  rcases Nat.eq_zero_or_pos quotient with rfl | hpos
  · rfl
  · have := (Nat.log2_lt (Nat.ne_of_gt hpos)).2 h
    omega

/-- The shift of a quotient in a binade. -/
theorem shift_eq {quotient shift : Nat} (hlow : 2 ^ (52 + shift) ≤ quotient)
    (hhigh : quotient < 2 ^ (53 + shift)) : quotient.log2 - 52 = shift := by
  have hpos : quotient ≠ 0 := by
    have := Nat.two_pow_pos (52 + shift)
    omega
  have hlog : quotient.log2 = 52 + shift := by
    rw [Nat.log2_eq_iff hpos, show 52 + shift + 1 = 53 + shift by omega]
    exact ⟨hlow, hhigh⟩
  omega

section
variable (x : Binary64)

/-- The quarters of a distance that the interval reaches down from the number. -/
def margin : Nat :=
  if x.Narrow then 1 else 2

/-- The margin of a number is at most two units. -/
theorem margin_le : x.margin ≤ 2 := by
  rw [margin]
  split <;> omega

/-- It is never empty. -/
theorem margin_pos : 0 < x.margin := by
  rw [margin]
  split <;> omega

/-- The ratio of units lies in the interval that rounds to the number. -/
def Encloses (numerator denominator : Nat) : Prop :=
  Within x.significand x.margin (2 ^ x.binade * denominator) numerator

variable {x} {numerator denominator : Nat}

/-- A ratio in the interval rounds to the number. The quotient may lie in the binade of the number
or just below it, where the grid is finer and half of the gap remains. -/
theorem nearestMagnitude_of_encloses (h : x.Encloses numerator denominator)
    (hdenominator : 0 < denominator) : nearestMagnitude numerator denominator = x.magnitude := by
  have hbound := x.significand_lt
  have hunit : 0 < 2 ^ x.binade * denominator :=
    Nat.mul_pos (Nat.two_pow_pos _) hdenominator
  have htwice : Within x.significand 2 (2 ^ x.binade * denominator) numerator :=
    h.mono x.margin_le
  -- the quotient lies below the end of the binade
  have hbelow : numerator < 2 ^ (53 + x.binade) * denominator := by
    have hm := Nat.mul_le_mul_right (2 ^ x.binade * denominator) (Nat.succ_le_of_lt hbound)
    have hupper := htwice.upper
    rw [Nat.pow_add, Nat.mul_assoc]
    rw [Nat.succ_mul] at hm
    omega
  have hquotient := (Nat.div_lt_iff_lt_mul hdenominator).2 hbelow
  rw [nearestMagnitude, magnitude_eq]
  rcases Nat.eq_zero_or_pos x.binade with hzero | hpos
  case inl =>
    rw [hzero] at hquotient htwice
    rw [shift_eq_zero hquotient, hzero]
    simpa using htwice.roundQuotient_eq (by simpa using hdenominator)
  case inr =>
    have hleast := x.le_significand (Nat.ne_of_gt hpos)
    rcases Nat.lt_or_ge numerator (2 ^ (52 + x.binade) * denominator) with hlow | hhigh
    · -- only the least number of a binade is reached from below, where the distance is half
      obtain ⟨shift, hshift⟩ : ∃ shift, x.binade = shift + 1 := ⟨x.binade - 1, by omega⟩
      have hnarrow : x.margin = if x.significand = 2 ^ 52 then 1 else 2 := by
        simp only [margin, Narrow, Nat.ne_of_gt hpos, ne_eq, not_false_eq_true, and_true]
      rw [Encloses, hshift, Nat.pow_succ', Nat.mul_assoc] at h
      rw [hshift, show 52 + (shift + 1) = 53 + shift by omega] at hlow
      obtain ⟨hpower, hhalf⟩ := h.halve hleast hnarrow
        (by rwa [Nat.pow_add, Nat.mul_assoc] at hlow)
      have hsmall := (Nat.div_lt_iff_lt_mul hdenominator).2 hlow
      have hlarge : 2 ^ (52 + shift) ≤ numerator / denominator := by
        have hlower := hhalf.lower
        rw [Nat.le_div_iff_mul_le hdenominator, Nat.pow_add, Nat.mul_assoc]
        omega
      rw [shift_eq hlarge hsmall, Nat.pow_eq, Nat.mul_comm denominator,
        hhalf.roundQuotient_eq (Nat.mul_pos (Nat.two_pow_pos _) hdenominator), hpower, hshift,
        Nat.pow_eq]
      omega
    · have hshift := shift_eq ((Nat.le_div_iff_mul_le hdenominator).2 hhigh) hquotient
      rw [hshift, Nat.pow_eq, Nat.mul_comm denominator, htwice.roundQuotient_eq hunit, Nat.pow_eq]

end

/-! ### The test -/

section
variable (x : Binary64)

/-- Magnitude and significand have the same parity, which decides whether the bounds themselves are
read back. -/
theorem even_magnitude_iff : x.magnitude % 2 = 0 ↔ x.significand % 2 = 0 := by
  have := x.magnitude_eq
  omega

/-- The test of a decimal compares it with the ends of the interval. -/
theorem readsBack_iff (digits : Nat) (exponent : Int) :
    x.readsBack digits exponent = true ↔
      x.Encloses (digits * Nat.pow 10 exponent.toNat * Nat.pow 2 1074)
        (Nat.pow 10 (-exponent).toNat) := by
  have hspacing : Nat.pow 2 (x.magnitude / Nat.pow 2 52 - 1) = 2 ^ x.binade := rfl
  have hmargin : (if x.magnitude % Nat.pow 2 52 = 0 ∧ Nat.pow 2 52 < x.magnitude then
      2 ^ x.binade else 2 * 2 ^ x.binade) = x.margin * 2 ^ x.binade := by
    rw [margin, ← if_congr x.narrow_iff rfl rfl]
    split <;> omega
  rw [Encloses, ← Within.iff_ends x.margin_le]
  simp only [readsBack, hspacing, Bool.and_eq_true, decide_eq_true_eq, hmargin, units_eq,
    Bool.or_eq_true, even_magnitude_iff, Nat.mul_assoc]

/-- A decimal that passes the test is read as the number, with any sign. The test is made on
magnitudes in whole numbers, while reading rounds a quotient; both come to the same number of
units. -/
theorem ofDecimal?_of_readsBack {digits : Nat} {exponent : Int}
    (h : x.readsBack digits exponent = true) (negative : Bool) :
    ofDecimal? negative digits exponent = some { x with negative } := by
  have hencloses := (x.readsBack_iff digits exponent).1 h
  have hmagnitude := nearestMagnitude_of_encloses hencloses (Nat.pow_pos (by decide))
  have hbits : ofBits? negative x.magnitude = some { x with negative } := by
    rw [ofBits?, dif_pos x.magnitude_lt]
  rw [ofDecimal?]
  split
  case isTrue hneg =>
    rw [Int.toNat_of_nonpos (Int.le_of_lt hneg)] at hmagnitude
    rw [ofRatio?, ofUnitRatio?, ← hbits, ← hmagnitude]
    simp only [Nat.pow_eq, Nat.pow_zero, Nat.mul_one]
  case isFalse hpos =>
    rw [Int.toNat_of_nonpos (show -exponent ≤ 0 by omega)] at hmagnitude
    rw [ofRatio?, ofUnitRatio?, ← hbits, ← hmagnitude]

/-- A zero behind the digits makes no difference if the exponent makes up for it. -/
theorem readsBack_mul_ten (digits : Nat) (exponent : Int) :
    x.readsBack (digits * 10) exponent = x.readsBack digits (exponent + 1) := by
  rw [Bool.eq_iff_iff, readsBack_iff, readsBack_iff]
  rcases Int.lt_or_le exponent 0 with hneg | hpos
  · rw [show exponent.toNat = 0 by omega, show (exponent + 1).toNat = 0 by omega,
      show (-exponent).toNat = (-(exponent + 1)).toNat + 1 by omega]
    have hunit : 2 ^ x.binade * Nat.pow 10 ((-(exponent + 1)).toNat + 1) =
        10 * (2 ^ x.binade * Nat.pow 10 (-(exponent + 1)).toNat) := by
      rw [Nat.pow_eq, Nat.pow_succ, Nat.pow_eq]
      ring
    have hnumerator : digits * 10 * Nat.pow 10 0 * Nat.pow 2 1074 =
        10 * (digits * Nat.pow 10 0 * Nat.pow 2 1074) := by
      simp only [Nat.mul_assoc, Nat.mul_left_comm 10]
    rw [Encloses, Encloses, hunit, hnumerator, Within.mul_iff (by decide)]
  · rw [show (exponent + 1).toNat = exponent.toNat + 1 by omega,
      show (-exponent).toNat = 0 by omega, show (-(exponent + 1)).toNat = 0 by omega]
    have hdigits : digits * 10 * Nat.pow 10 exponent.toNat =
        digits * Nat.pow 10 (exponent.toNat + 1) := by
      rw [Nat.pow_eq, Nat.pow_eq, Nat.pow_succ]
      ring
    rw [hdigits]

/-- Zeros behind the digits make no difference if the exponent makes up for them. -/
theorem readsBack_mul_pow (digits zeros : Nat) (exponent : Int) :
    x.readsBack (digits * 10 ^ zeros) exponent = x.readsBack digits (exponent + zeros) := by
  induction zeros generalizing exponent with
  | zero => simp
  | succ zeros ih =>
    rw [Nat.pow_succ, ← Nat.mul_assoc, readsBack_mul_ten, ih]
    congr 1
    push_cast
    ring

/-! ### The shortest decimal -/

variable {x}

/-- Zero digits stand for no other number. -/
theorem ne_zero_of_readsBack (hx : x.isZero = false) {digits : Nat} {exponent : Int}
    (h : x.readsBack digits exponent = true) : digits ≠ 0 := by
  rintro rfl
  have hlower := ((x.readsBack_iff 0 exponent).1 h).lower
  rw [Nat.mul_assoc 0, Nat.zero_mul] at hlower
  have hunit : 0 < 2 ^ x.binade * Nat.pow 10 (-exponent).toNat :=
    Nat.mul_pos (Nat.two_pow_pos _) (Nat.pow_pos (by decide))
  have hone := Nat.mul_le_mul_right (2 ^ x.binade * Nat.pow 10 (-exponent).toNat)
    (Nat.one_le_iff_ne_zero.2 (x.significand_ne_zero hx))
  have hmargin := Nat.mul_le_mul_right (2 ^ x.binade * Nat.pow 10 (-exponent).toNat) x.margin_le
  omega

/-- Zero digits stand for zero. -/
theorem readsBack_zero (hx : x.isZero = true) (exponent : Int) :
    x.readsBack 0 exponent = true := by
  have hzero : x.significand = 0 := by
    have hmagnitude : x.magnitude = 0 := by simpa [isZero] using hx
    rw [significand, hmagnitude]
    rfl
  rw [readsBack_iff, Encloses, Nat.mul_assoc, Nat.zero_mul, hzero]
  exact ⟨by omega, by omega, by omega⟩

/-- A decimal that is found on a grid reads back to the number: the grid is only accepted within the
margin. -/
theorem readsBack_onGrid? {tie : Tie} {exponent : Int} {decimal : Decimal}
    (h : x.onGrid? tie exponent = some decimal) :
    x.readsBack decimal.digits decimal.exponent = true := by
  unfold onGrid? at h
  dsimp only at h
  generalize x.units * Nat.pow 10 (-exponent).toNat /
    (Nat.pow 10 exponent.toNat * Nat.pow 2 1074) = below at h
  generalize compare (2 * _) _ = order at h
  -- a candidate comes only behind its own test, whichever way the tie goes
  split at h
  case isTrue hboth =>
    simp only [Bool.and_eq_true] at hboth
    obtain ⟨⟨hlower, -⟩, hupper⟩ := hboth
    split at h
    · cases h; exact hlower
    · cases h; exact hupper
    · cases h; exact hupper
    · cases h
      rcases Nat.mod_two_eq_zero_or_one below with heven | hodd
      · rw [heven, Nat.add_zero]; exact hlower
      · rw [hodd]; exact hupper
  case isFalse =>
    split at h
    case isTrue hlower =>
      simp only [Bool.and_eq_true] at hlower
      cases h
      exact hlower.1
    case isFalse =>
      split at h
      case isTrue hupper => cases h; exact hupper
      case isFalse => cases h

/-- The search tries grids from the coarsest one on, and what it finds reads back. -/
theorem readsBack_searchGrids {tie : Tie} {exponent : Int} {tries : Nat} {decimal : Decimal}
    (h : x.searchGrids tie exponent tries = some decimal) :
    x.readsBack decimal.digits decimal.exponent = true := by
  induction tries generalizing exponent with
  | zero => cases h
  | succ tries ih =>
    rw [searchGrids, Option.orElse_eq_orElse, Option.orElse_eq_or, Option.or_eq_some_iff] at h
    exact h.elim readsBack_onGrid? fun hbelow => ih hbelow.2

/-- Zeros at the end go into the exponent and do not change the number, so a decimal that reads back
still does so without them. -/
theorem readsBack_dropZeros {decimal : Decimal} (tries : Nat)
    (h : x.readsBack decimal.digits decimal.exponent = true) :
    x.readsBack (dropZeros decimal tries).digits (dropZeros decimal tries).exponent = true := by
  induction tries generalizing decimal with
  | zero => exact h
  | succ tries ih =>
    rw [dropZeros]
    split
    case isTrue hzero =>
      apply ih
      rw [Bool.and_eq_true, decide_eq_true_eq] at hzero
      rw [← readsBack_mul_ten]
      dsimp only
      rwa [Nat.div_mul_cancel (Nat.dvd_of_mod_eq_zero hzero.1)]
    case isFalse => exact h

/-- The exact decimal of a number reads back, as no rounding takes place. It is what the search
falls back on. -/
theorem readsBack_exact : x.readsBack (x.units * Nat.pow 5 1074) (-1074) = true := by
  have hone : Nat.pow 10 (-1074 : Int).toNat = 1 := rfl
  have hwithin (n : Nat) : Within x.significand x.margin (2 ^ x.binade * Nat.pow 10 n)
      (x.units * Nat.pow 5 n * 1 * Nat.pow 2 n) := by
    have hten : Nat.pow 10 n = Nat.pow 5 n * Nat.pow 2 n := Nat.mul_pow 5 2 n
    have hvalue : x.units * Nat.pow 5 n * 1 * Nat.pow 2 n =
        x.significand * (2 ^ x.binade * Nat.pow 10 n) := by
      rw [hten, units_eq]
      ring
    have hunit : 0 < 2 ^ x.binade * Nat.pow 10 n :=
      Nat.mul_pos (Nat.two_pow_pos _) (Nat.pow_pos (by decide))
    have hmargin := Nat.mul_le_mul_right (2 ^ x.binade * Nat.pow 10 n) x.margin_pos
    rw [hvalue]
    exact ⟨by omega, by omega, by omega⟩
  have hexponent : (-(-1074) : Int).toNat = 1074 := rfl
  -- the exponent is hidden, so that no power is computed
  obtain ⟨n, hn⟩ : ∃ n, n = 1074 := ⟨1074, rfl⟩
  rw [readsBack_iff, hexponent, hone, ← hn]
  exact hwithin n

/-- The search finds a decimal, or the exact one is taken. -/
theorem shortest_cases (hx : x.isZero = false) (tie : Tie) :
    (∃ exponent tries found, x.searchGrids tie exponent tries = some found ∧
        x.shortest tie = dropZeros found 400) ∨
      x.shortest tie = ⟨x.units * Nat.pow 5 1074, -1074⟩ := by
  unfold shortest
  generalize x.units * Nat.pow 5 1074 = digits
  rw [hx, if_neg Bool.false_ne_true]
  dsimp only
  split
  case h_1 found hfound => exact .inl ⟨_, _, found, hfound, rfl⟩
  case h_2 => exact .inr rfl

/-- The decimal that a number is written with reads back. It was found on some grid within the
margin, and the zeros that were dropped behind it do not count; without a find, the exact decimal is
taken. -/
theorem readsBack_shortest (hx : x.isZero = false) (tie : Tie) :
    x.readsBack (x.shortest tie).digits (x.shortest tie).exponent = true := by
  rcases shortest_cases hx tie with ⟨exponent, tries, found, hfound, hshortest⟩ | hshortest
  · rw [hshortest]
    exact readsBack_dropZeros 400 (readsBack_searchGrids hfound)
  · rw [hshortest]
    exact x.readsBack_exact

end

end DesignTokens.Binary64
