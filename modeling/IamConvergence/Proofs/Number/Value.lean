/-
The rational that a floating-point number stands for. Counted in the least magnitude, every
magnitude is a natural number that grows with its place, so numbers of one value are the same up to
the sign of zero. An integer that is the value of some floating-point number is rounded to that
value, and those of at most 53 significant bits are.
-/
import Mathlib.Algebra.Order.Field.Power
import Mathlib.Order.Monotone.Basic
import Mathlib.Tactic.FieldSimp
import Mathlib.Tactic.Linarith
import Mathlib.Tactic.NormNum
import Mathlib.Tactic.Ring
import IamConvergence.Number.Binary64

namespace IamConvergence

namespace Binary64

theorem binade_eq : binade = 2 ^ 52 := rfl

theorem places_eq : places = 2047 * 2 ^ 52 := rfl

/-! ## Magnitudes -/

/-- The magnitude at a place, in units of the least magnitude. -/
def units (place : Nat) : Nat :=
  if place < binade then place
  else (binade + place % binade) * 2 ^ (place / binade - 1)

/-- The least magnitude is two to the power of minus this. -/
def leastExponent : Nat := 1074

/-- How many least magnitudes make one. -/
def unitsInOne : Nat := 2 ^ leastExponent

theorem unitsInOne_pos : 0 < unitsInOne := Nat.two_pow_pos leastExponent

theorem two_pow_le_unitsInOne {k : Nat} (h : k ≤ leastExponent) : 2 ^ k ≤ unitsInOne :=
  Nat.pow_le_pow_right Nat.two_pos h

theorem units_of_lt {p : Nat} (h : p < 2 ^ 52) : units p = p := by
  rw [units, binade_eq, if_pos h]

/-- The magnitude with a mantissa of 53 bits. -/
theorem units_of_mantissa {k m : Nat} (hlow : 2 ^ 52 ≤ m) (hhigh : m < 2 ^ 53) :
    units (k * 2 ^ 52 + m) = m * 2 ^ k := by
  have hdiv : (k * 2 ^ 52 + m) / 2 ^ 52 = k + 1 := by omega
  have hmod : (k * 2 ^ 52 + m) % 2 ^ 52 = m - 2 ^ 52 := by omega
  have hfull : 2 ^ 52 + (m - 2 ^ 52) = m := by omega
  rw [units, binade_eq, if_neg (by omega), hdiv, hmod, hfull, Nat.add_sub_cancel]

/-- Every place from the second binade on has a mantissa of 53 bits. -/
theorem exists_mantissa {p : Nat} (h : 2 ^ 52 ≤ p) :
    ∃ k m, 2 ^ 52 ≤ m ∧ m < 2 ^ 53 ∧ p = k * 2 ^ 52 + m := by
  refine ⟨p / 2 ^ 52 - 1, 2 ^ 52 + p % 2 ^ 52, by omega, by omega, by omega⟩

theorem units_lt_succ (p : Nat) : units p < units (p + 1) := by
  rcases Nat.lt_or_ge p (2 ^ 52) with hp | hp
  · rcases Nat.lt_or_ge (p + 1) (2 ^ 52) with hp' | hp'
    · rw [units_of_lt hp, units_of_lt hp']
      exact Nat.lt_succ_self p
    · have hnext : p + 1 = 0 * 2 ^ 52 + 2 ^ 52 := by omega
      rw [units_of_lt hp, hnext, units_of_mantissa (le_refl _) (by norm_num)]
      omega
  · obtain ⟨k, m, hlow, hhigh, rfl⟩ := exists_mantissa hp
    rw [units_of_mantissa hlow hhigh]
    rcases Nat.lt_or_ge (m + 1) (2 ^ 53) with hm | hm
    · rw [Nat.add_assoc, units_of_mantissa (by omega) hm]
      exact Nat.mul_lt_mul_of_pos_right (Nat.lt_succ_self m) (Nat.two_pow_pos k)
    · -- the mantissa is full, and the next one starts a binade
      have hnext : k * 2 ^ 52 + m + 1 = (k + 1) * 2 ^ 52 + 2 ^ 52 := by omega
      rw [hnext, units_of_mantissa (le_refl _) (by norm_num)]
      calc m * 2 ^ k < 2 ^ 53 * 2 ^ k := Nat.mul_lt_mul_of_pos_right hhigh (Nat.two_pow_pos k)
        _ = 2 ^ 52 * 2 ^ (k + 1) := by ring

theorem strictMono_units : StrictMono units := strictMono_nat_of_lt_succ units_lt_succ

theorem units_eq_zero_iff {p : Nat} : units p = 0 ↔ p = 0 := by
  have hzero : units 0 = 0 := units_of_lt (Nat.two_pow_pos 52)
  constructor
  · intro h
    exact strictMono_units.injective (h.trans hzero.symm)
  · rintro rfl
    exact hzero

/-! ## Values -/

/-- The sign of a number as a factor. -/
def sign (x : Binary64) : ℚ := if x.negative then -1 else 1

theorem sign_neg_iff {x : Binary64} : x.sign < 0 ↔ x.negative = true := by
  rw [sign]
  cases x.negative <;> norm_num

/-- The rational that a number stands for. -/
def value (x : Binary64) : ℚ := x.sign * (x.mantissa * (2 : ℚ) ^ x.exponent)

/-- The distance of a number from zero. -/
def magnitude (x : Binary64) : ℚ := units x.place / unitsInOne

theorem mantissa_mul_zpow (x : Binary64) :
    (x.mantissa : ℚ) * (2 : ℚ) ^ x.exponent = x.magnitude := by
  have hscale : (2 : ℚ) ^ (-1074 : ℤ) = 1 / unitsInOne := by
    rw [unitsInOne, Nat.cast_pow, Nat.cast_ofNat, ← zpow_natCast, one_div, ← zpow_neg]
    rfl
  rw [magnitude]
  rcases Nat.lt_or_ge x.place (2 ^ 52) with hp | hp
  · rw [mantissa, exponent, binade_eq, if_pos hp, if_pos hp, units_of_lt hp, hscale, mul_one_div]
  · obtain ⟨k, m, hlow, hhigh, hplace⟩ := exists_mantissa hp
    have hdiv : x.place / 2 ^ 52 = k + 1 := by omega
    have hmod : 2 ^ 52 + x.place % 2 ^ 52 = m := by omega
    have hexp : ((k + 1 : Nat) : ℤ) - 1075 = (k : ℤ) + (-1074) := by omega
    rw [mantissa, exponent, binade_eq, if_neg (Nat.not_lt.mpr hp), if_neg (Nat.not_lt.mpr hp), hdiv,
      hmod, hexp, zpow_add₀ two_ne_zero, zpow_natCast, hscale, hplace, units_of_mantissa hlow hhigh,
      Nat.cast_mul, Nat.cast_pow, Nat.cast_ofNat]
    ring

theorem value_eq (x : Binary64) : x.value = x.sign * x.magnitude := by
  rw [value, mantissa_mul_zpow]

theorem magnitude_nonneg (x : Binary64) : 0 ≤ x.magnitude :=
  div_nonneg (Nat.cast_nonneg _) (Nat.cast_nonneg _)

theorem magnitude_eq_zero_iff {x : Binary64} : x.magnitude = 0 ↔ x.place = 0 := by
  have hone : (unitsInOne : ℚ) ≠ 0 := Nat.cast_ne_zero.mpr unitsInOne_pos.ne'
  rw [magnitude, div_eq_zero_iff, or_iff_left hone, Nat.cast_eq_zero, units_eq_zero_iff]

theorem magnitude_eq_natCast_iff {x : Binary64} {n : Nat} :
    x.magnitude = n ↔ units x.place = n * unitsInOne := by
  have hone : (unitsInOne : ℚ) ≠ 0 := Nat.cast_ne_zero.mpr unitsInOne_pos.ne'
  rw [magnitude, div_eq_iff hone, ← Nat.cast_mul, Nat.cast_inj]

theorem abs_value (x : Binary64) : |x.value| = x.magnitude := by
  rw [value_eq, abs_mul, abs_of_nonneg x.magnitude_nonneg, sign]
  split <;> simp

theorem place_eq_of_magnitude {x y : Binary64} (h : x.magnitude = y.magnitude) :
    x.place = y.place := by
  have hone : (unitsInOne : ℚ) ≠ 0 := Nat.cast_ne_zero.mpr unitsInOne_pos.ne'
  rw [magnitude, magnitude, div_left_inj' hone, Nat.cast_inj] at h
  exact strictMono_units.injective h

/-- Numbers are the same if they have the same value. -/
theorem same_iff {x y : Binary64} : x.same y = true ↔ x.value = y.value := by
  have hsame : x.same y = true ↔
      x.place = y.place ∧ (x.negative = y.negative ∨ x.place = 0) := by
    simp [same]
  rw [hsame, value_eq, value_eq]
  constructor
  · rintro ⟨hplace, hsign | hzero⟩
    · rw [sign, sign, magnitude, magnitude, hplace, hsign]
    · rw [magnitude_eq_zero_iff.mpr hzero, magnitude_eq_zero_iff.mpr (hplace ▸ hzero), mul_zero,
        mul_zero]
  · intro h
    have hmag : x.magnitude = y.magnitude := by
      rw [← abs_value, ← abs_value, value_eq, value_eq, h]
    refine ⟨place_eq_of_magnitude hmag, ?_⟩
    by_cases hzero : x.place = 0
    · exact .inr hzero
    · have hne : y.magnitude ≠ 0 := by
        rw [← hmag]
        exact fun h0 => hzero (magnitude_eq_zero_iff.mp h0)
      rw [hmag, mul_left_inj' hne] at h
      refine .inl (Bool.eq_iff_iff.mpr ?_)
      rw [← sign_neg_iff, ← sign_neg_iff, h]

/-- A sign and a distance from zero make an integer. -/
theorem value_eq_intCast {x : Binary64} {i : ℤ} (hsign : x.negative = decide (i < 0))
    (hmag : x.magnitude = i.natAbs) : x.value = i := by
  rw [value_eq, hmag, sign, hsign, ← Int.cast_natCast]
  rcases lt_or_ge i 0 with hneg | hpos
  · have hi : (i.natAbs : ℤ) = -i := by omega
    rw [decide_eq_true hneg, if_pos rfl, hi, Int.cast_neg, neg_one_mul, neg_neg]
  · have hi : (i.natAbs : ℤ) = i := by omega
    rw [decide_eq_false (Int.not_lt.mpr hpos), if_neg Bool.false_ne_true, hi, one_mul]

/-! ## Rounding -/

theorem log2_mul_two_pow {n k : Nat} (hn : n ≠ 0) : (n * 2 ^ k).log2 = n.log2 + k := by
  rw [Nat.log2_eq_iff (Nat.mul_ne_zero hn (Nat.two_pow_pos k).ne'), Nat.pow_add, Nat.add_right_comm,
    Nat.pow_add]
  exact ⟨Nat.mul_le_mul_right _ (Nat.log2_self_le hn),
    Nat.mul_lt_mul_of_pos_right Nat.lt_log2_self (Nat.two_pow_pos k)⟩

theorem roundDiv_mul (m : Nat) {d : Nat} (hd : 0 < d) : roundDiv (m * d) d = m := by
  simp [roundDiv, hd]

section

variable {n m k : Nat}

/-- An integer of which `m · 2 ^ k` is the number of units, as a fraction under its exponent. -/
theorem shifted_exact {s : Nat} (h : m * 2 ^ k = n * 2 ^ s) :
    shifted n 1 ((k : ℤ) - s) = (m * 2 ^ ((k : ℤ) - s).toNat, 2 ^ ((k : ℤ) - s).toNat) := by
  have hfrac : n * 2 ^ (-((k : ℤ) - s)).toNat = m * 2 ^ ((k : ℤ) - s).toNat := by
    rcases Nat.le_total k s with hk | hk
    · have hneg : (-((k : ℤ) - s)).toNat = s - k := by omega
      have hpos : ((k : ℤ) - s).toNat = 0 := by omega
      rw [hneg, hpos, Nat.pow_zero, Nat.mul_one]
      refine Nat.eq_of_mul_eq_mul_right (Nat.two_pow_pos k) ?_
      rw [Nat.mul_assoc, ← Nat.pow_add, Nat.sub_add_cancel hk, h]
    · have hneg : (-((k : ℤ) - s)).toNat = 0 := by omega
      have hpos : ((k : ℤ) - s).toNat = k - s := by omega
      rw [hneg, hpos, Nat.pow_zero, Nat.mul_one]
      refine Nat.eq_of_mul_eq_mul_right (Nat.two_pow_pos s) ?_
      rw [Nat.mul_assoc, ← Nat.pow_add, Nat.sub_add_cancel hk, h]
  have hden : 1 * twoPow ((k : ℤ) - s).toNat = 2 ^ ((k : ℤ) - s).toNat := Nat.one_mul _
  rw [shifted, hden]
  exact congrArg (·, _) hfrac

theorem exponentFor_exact (hlow : 2 ^ 52 ≤ m) (hhigh : m < 2 ^ 53)
    (h : m * 2 ^ k = n * unitsInOne) : exponentFor n 1 = (k : ℤ) - leastExponent := by
  have hm : m ≠ 0 := by omega
  have hn : n ≠ 0 := by
    rintro rfl
    rw [Nat.zero_mul] at h
    exact Nat.mul_ne_zero hm (Nat.two_pow_pos k).ne' h
  have hlog : m.log2 = 52 := (Nat.log2_eq_iff hm).mpr ⟨hlow, hhigh⟩
  have hsum : 52 + k = n.log2 + leastExponent := by
    rw [← hlog, ← log2_mul_two_pow hm, h, unitsInOne, log2_mul_two_pow hn]
  have hone : Nat.log2 1 = 0 := by decide
  have hstart : (n.log2 : ℤ) - ((0 : Nat) : ℤ) - 52 = (k : ℤ) - leastExponent := by omega
  have hfull : ¬ m * 2 ^ ((k : ℤ) - leastExponent).toNat <
      2 ^ ((k : ℤ) - leastExponent).toNat * 2 ^ 52 := by
    rw [Nat.not_lt, Nat.mul_comm]
    exact Nat.mul_le_mul_right _ hlow
  rw [exponentFor, hone, hstart, shifted_exact h, binade_eq]
  simp only [if_neg hfull]
  -- no integer is so small that its exponent would be cut off
  refine max_eq_left ?_
  have hleast : (leastExponent : ℤ) = 1074 := rfl
  omega

end

/-- An integer with the magnitude of a place is rounded to that place. -/
theorem placeOf_exact {n p : Nat} (h : units p = n * unitsInOne) : placeOf n 1 = p := by
  rcases Nat.eq_zero_or_pos n with rfl | hn
  · rw [Nat.zero_mul, units_eq_zero_iff] at h
    rw [h]
    rfl
  · have hlarge : 2 ^ 52 ≤ units p := by
      rw [h]
      calc 2 ^ 52 ≤ unitsInOne := two_pow_le_unitsInOne (by decide)
        _ ≤ n * unitsInOne := Nat.le_mul_of_pos_left _ hn
    have hp : 2 ^ 52 ≤ p := by
      by_contra hlt
      rw [units_of_lt (Nat.lt_of_not_le hlt)] at hlarge
      exact hlt hlarge
    obtain ⟨k, m, hlow, hhigh, rfl⟩ := exists_mantissa hp
    rw [units_of_mantissa hlow hhigh] at h
    have hk : ((k : ℤ) - leastExponent + 1074).toNat = k := by
      have hleast : (leastExponent : ℤ) = 1074 := rfl
      omega
    simp only [placeOf, if_neg hn.ne', exponentFor_exact hlow hhigh h, shifted_exact h, hk,
      binade_eq]
    rw [roundDiv_mul m (Nat.two_pow_pos _)]

/-- An integer that is the value of a number is rounded without loss. -/
theorem ofInt?_exact {i : ℤ} {x : Binary64} (h : x.value = i) :
    ∃ y, ofInt? i = some y ∧ y.value = i := by
  have hmag : x.magnitude = i.natAbs := by
    rw [← abs_value, h, Nat.cast_natAbs, Int.cast_abs]
  have hplace : placeOf i.natAbs 1 = x.place := placeOf_exact (magnitude_eq_natCast_iff.mp hmag)
  have hlt : placeOf i.natAbs 1 < places := by
    rw [hplace]
    exact x.place_lt
  refine ⟨⟨i < 0, placeOf i.natAbs 1, hlt⟩, ?_, value_eq_intCast rfl ?_⟩
  · rw [ofInt?, ofFraction?, dif_pos hlt]
  · rw [← hmag]
    show (units (placeOf i.natAbs 1) : ℚ) / unitsInOne = units x.place / unitsInOne
    rw [hplace]

/-- A natural number of at most 53 significant bits is a magnitude, if it is not too large. -/
theorem exists_units_eq {m t : Nat} (hm : m < 2 ^ 53) (ht : t ≤ 971) :
    ∃ p, p < places ∧ units p = m * 2 ^ t * unitsInOne := by
  rcases Nat.eq_zero_or_pos m with rfl | hpos
  · refine ⟨0, by decide, ?_⟩
    rw [Nat.zero_mul, Nat.zero_mul, units_eq_zero_iff]
  · have hlog : m.log2 ≤ 52 := Nat.le_of_lt_succ ((Nat.log2_lt hpos.ne').mpr hm)
    -- filled up to 53 bits
    have hlow : 2 ^ 52 ≤ m * 2 ^ (52 - m.log2) := by
      calc 2 ^ 52 = 2 ^ m.log2 * 2 ^ (52 - m.log2) := by
            rw [← Nat.pow_add, Nat.add_sub_cancel' hlog]
        _ ≤ m * 2 ^ (52 - m.log2) := Nat.mul_le_mul_right _ (Nat.log2_self_le hpos.ne')
    have hhigh : m * 2 ^ (52 - m.log2) < 2 ^ 53 := by
      have hbits : m.log2 + 1 + (52 - m.log2) = 53 := by omega
      calc m * 2 ^ (52 - m.log2) < 2 ^ (m.log2 + 1) * 2 ^ (52 - m.log2) :=
            Nat.mul_lt_mul_of_pos_right Nat.lt_log2_self (Nat.two_pow_pos _)
        _ = 2 ^ 53 := by rw [← Nat.pow_add, hbits]
    refine ⟨(t + m.log2 + 1022) * 2 ^ 52 + m * 2 ^ (52 - m.log2), ?_, ?_⟩
    · rw [places_eq]
      omega
    · have hsum : 52 - m.log2 + (t + m.log2 + 1022) = t + leastExponent := by
        have hleast : leastExponent = 1074 := rfl
        omega
      rw [units_of_mantissa hlow hhigh, unitsInOne, Nat.mul_assoc, Nat.mul_assoc, ← Nat.pow_add,
        ← Nat.pow_add, hsum]

/-- An integer of at most 53 significant bits is the value of a number, if it is not too large. -/
theorem exists_value_eq {i : ℤ} {m t : Nat} (hi : i.natAbs = m * 2 ^ t) (hm : m < 2 ^ 53)
    (ht : t ≤ 971) : ∃ x : Binary64, x.value = i := by
  obtain ⟨p, hp, hunits⟩ := exists_units_eq hm ht
  refine ⟨⟨i < 0, p, hp⟩, value_eq_intCast rfl (magnitude_eq_natCast_iff.mpr ?_)⟩
  rw [hi]
  exact hunits

end Binary64

end IamConvergence
