import Assessment.Proofs.Number.Doubles

/-!
# Hundredths, and when a decimal is rounded to them

A decimal may be a number of hundredths in more than one form. A result carries 28 digits, and two of them
stand behind the point; so what has at most 26 digits before the point, even once it is rounded, is rounded to
hundredths.
-/

namespace Assessment.Number.Decimal

/-- A number of hundredths, with whatever exponent it is written. -/
def IsHundredths (d : Decimal) (n : Nat) : Prop := d.isFinite = true ∧ d.value = n / 100

lemma IsHundredths.zero {d : Decimal} (h : d.IsHundredths 0) : d.isZero = true := by
  obtain ⟨finite, value⟩ := h
  cases d with
  | nan | infinite => cases finite
  | finite s c e =>
    rcases Nat.eq_zero_or_pos c with rfl | hc
    · rfl
    · have hvalue : (Decimal.finite s c e).value = 0 := by simpa using value
      have := magnitude_pos hc e
      rw [(value_of_nonneg hvalue.ge).2] at hvalue
      linarith

lemma finite_of_pos {d : Decimal} (finite : d.isFinite = true) (positive : 0 < d.value) :
    ∃ c e, 0 < c ∧ d = .finite false c e := by
  cases d with
  | nan | infinite => cases finite
  | finite s c e =>
    obtain ⟨hsign, hvalue⟩ := value_of_nonneg positive.le
    have hc : c ≠ 0 := by
      rintro rfl
      rw [hvalue, magnitude_zero] at positive
      exact positive.false
    cases s with
    | false => exact ⟨c, e, Nat.pos_of_ne_zero hc, rfl⟩
    | true => exact absurd (hsign rfl) hc

lemma IsHundredths.pos {d : Decimal} {n : Nat} (h : d.IsHundredths n) (hn : 0 < n) :
    ∃ c e, 0 < c ∧ d = .finite false c e ∧ magnitude c e = n / 100 := by
  obtain ⟨finite, value⟩ := h
  have hpos : (0 : ℚ) < n / 100 := by positivity
  obtain ⟨c, e, hc, rfl⟩ := finite_of_pos finite (value ▸ hpos)
  exact ⟨c, e, hc, rfl, value⟩

/-- A decimal that, once it is rounded to hundredths, has at most 26 digits before the point. -/
def FewDigits (d : Decimal) : Prop := |d.value| < 10 ^ 26 - 1 / 200

lemma abs_value_finite (s : Bool) (c : Nat) (e : Int) : |(finite s c e).value| = magnitude c e := by
  rw [value_finite]
  have hnonneg := magnitude_nonneg c e
  cases s <;> simp [abs_of_nonneg hnonneg]

lemma fewDigits_hundredths {n : Nat} (hn : n < 10 ^ 28) (s : Bool) : (finite s n (-2)).FewDigits := by
  have hle : (n : ℚ) ≤ 10 ^ 28 - 1 := by
    have hnat : n + 1 ≤ 10 ^ 28 := hn
    have hcast : ((n + 1 : Nat) : ℚ) ≤ ((10 ^ 28 : Nat) : ℚ) := Nat.cast_le.mpr hnat
    push_cast at hcast
    linarith
  rw [FewDigits, abs_value_finite, magnitude_hundredths]
  linarith

lemma dropPlaces_le (mode : Rounding) (c places : Nat) :
    (dropPlaces mode c places : ℚ) ≤ c / 10 ^ places + 1 / 2 := by
  unfold dropPlaces
  split_ifs
  · have hpos : (0 : ℚ) ≤ c / 10 ^ places := by positivity
    push_cast
    linarith
  · have hpos : 0 < tenPow places := Nat.pow_pos (by norm_num)
    have herror := (abs_le.mp (mode.quotient_error hpos c)).2
    rw [tenPow_cast] at herror
    linarith

lemma shifted_hundredths (c : Nat) {e : Int} (h : e < -2) :
    (c : ℚ) / 10 ^ (-2 - e).toNat = magnitude c e * 100 := by
  have hexponent : -((-2 - e).toNat : Int) = e + 2 := by omega
  rw [div_eq_mul_inv, ← zpow_natCast, ← zpow_neg, hexponent, zpow_add₀ (by norm_num), ← mul_assoc]
  norm_num [magnitude]

lemma widened_hundredths (c : Nat) {e : Int} (h : -2 ≤ e) :
    ((c * tenPow (e + 2).toNat : Nat) : ℚ) = magnitude c e * 100 := by
  rw [magnitude_shift c h, magnitude_hundredths, sub_neg_eq_add]
  ring

lemma scaled_le (mode : Rounding) (c : Nat) (e : Int) :
    ((if e < -2 then dropPlaces mode c (-2 - e).toNat else c * tenPow (e + 2).toNat : Nat) : ℚ) ≤
      magnitude c e * 100 + 1 / 2 := by
  split_ifs with hfine
  · rw [← shifted_hundredths c hfine]
    exact dropPlaces_le mode c _
  · rw [widened_hundredths c (not_lt.mp hfine)]
    linarith

lemma toHundredths_isOk {mode : Rounding} {d : Decimal} (finite : d.isFinite = true) (few : d.FewDigits) :
    ∃ s c, d.toHundredths mode = .ok (.finite s c (-2)) := by
  cases d with
  | nan | infinite => cases finite
  | finite s c e =>
    unfold FewDigits at few
    rw [abs_value_finite] at few
    unfold toHundredths
    by_cases hc : c = 0
    · exact ⟨s, 0, if_pos hc⟩
    · have hadjusted : adjusted c e < 26 := by
        have hlow := (magnitude_bounds (Nat.pos_of_ne_zero hc) e).1
        have hpow : (10 : ℚ) ^ adjusted c e < 10 ^ (26 : Int) := by
          norm_num
          linarith
        exact (zpow_lt_zpow_iff_right₀ (by norm_num)).mp hpow
      have hle := scaled_le mode c e
      simp only [if_neg hc]
      rw [if_neg (by unfold precision; omega)]
      generalize (if e < -2 then dropPlaces mode c (-2 - e).toNat else c * tenPow (e + 2).toNat) = scaled at *
      have hlt : scaled < 10 ^ precision := by
        have hcast : (scaled : ℚ) < 10 ^ 28 := by linarith
        exact_mod_cast hcast
      rw [if_neg (not_lt.mpr ((digitCount_le_iff (by unfold precision; omega)).mpr hlt))]
      exact ⟨s, scaled, rfl⟩

end Assessment.Number.Decimal
