import Assessment.Proofs.Number.Nearest
import Mathlib.Data.Int.Log

/-!
# Rounding to 28 digits by value

What a result is rounded to depends on its value only: it is the nearest multiple of the unit of the last of
28 digits, the even one in a tie. So the larger of two numbers is not rounded to the smaller result, however
the two are written.
-/

namespace Assessment.Number.Decimal

variable {x y : ℚ} {c k : Nat} {e g : Int}

lemma magnitude_le_magnitude {k m : Nat} : magnitude k g ≤ magnitude m g ↔ k ≤ m := by
  have hpow : (0 : ℚ) < 10 ^ g := by positivity
  rw [magnitude, magnitude, mul_le_mul_iff_left₀ hpow, Nat.cast_le]

lemma magnitude_pow (k : Nat) (e : Int) : magnitude (10 ^ k) e = 10 ^ (k + e) := by
  rw [magnitude, Nat.cast_pow, Nat.cast_ofNat, ← zpow_natCast, ← zpow_add₀ (by norm_num)]

section Units

/-- The power of ten that is the unit of the last digit of 28, or of the smallest number there is. -/
def unit (x : ℚ) : Int := max (Int.log 10 x - 27) tiniestExponent

/-- The number that a number without a sign is rounded to. -/
def rounded (x : ℚ) : ℚ := magnitude (Rounding.halfEven.nearest (x / 10 ^ unit x)) (unit x)

lemma log_eq {k : Int} (low : 10 ^ k ≤ x) (high : x < 10 ^ (k + 1)) : Int.log 10 x = k := by
  have hx : 0 < x := (by positivity : (0 : ℚ) < 10 ^ k).trans_le low
  have hle : k ≤ Int.log 10 x := (Int.zpow_le_iff_le_log (by norm_num) hx).mp (by exact_mod_cast low)
  have hlt : Int.log 10 x < k + 1 := (Int.lt_zpow_iff_log_lt (by norm_num) hx).mp (by exact_mod_cast high)
  omega

lemma log_magnitude (hc : 0 < c) (e : Int) : Int.log 10 (magnitude c e) = adjusted c e :=
  log_eq (magnitude_bounds hc e).1 (magnitude_bounds hc e).2

lemma log_bounds (hx : 0 < x) : 10 ^ Int.log 10 x ≤ x ∧ x < 10 ^ (Int.log 10 x + 1) := by
  have hlow := Int.zpow_log_le_self (b := 10) (by norm_num) hx
  have hhigh := Int.lt_zpow_succ_log_self (b := 10) (by norm_num) x
  exact ⟨by exact_mod_cast hlow, by exact_mod_cast hhigh⟩

lemma rounded_of_nonpos (hx : x ≤ 0) : rounded x = 0 := by
  have hscaled : x / 10 ^ unit x ≤ 0 := div_nonpos_of_nonpos_of_nonneg hx (by positivity)
  rw [rounded, Rounding.nearest_of_nonpos hscaled, magnitude_zero]

lemma rounded_nonneg (x : ℚ) : 0 ≤ rounded x := magnitude_nonneg ..

lemma magnitude_div_unit (c : Nat) {u : Int} (h : e ≤ u) :
    magnitude c e / 10 ^ u = c / (tenPow (u - e).toNat : Nat) := by
  rw [tenPow_cast, magnitude, ← zpow_natCast, Int.toNat_of_nonneg (by omega), zpow_sub₀ (by norm_num)]
  field_simp

lemma nearest_magnitude (c : Nat) {u : Int} (h : e ≤ u) :
    Rounding.halfEven.nearest (magnitude c e / 10 ^ u) =
      Rounding.halfEven.quotient c (tenPow (u - e).toNat) := by
  rw [magnitude_div_unit c h]
  exact Rounding.nearest_div c (Nat.pow_pos (by omega))

lemma rounded_of_coarse (h : unit (magnitude c e) ≤ e) : rounded (magnitude c e) = magnitude c e := by
  have hunit : (10 : ℚ) ^ unit (magnitude c e) ≠ 0 := by positivity
  have hscaled : magnitude c e / 10 ^ unit (magnitude c e) =
      (c * tenPow (e - unit (magnitude c e)).toNat : Nat) := by
    rw [div_eq_iff hunit]
    exact magnitude_shift c h
  rw [rounded, hscaled, Rounding.nearest_natCast, ← magnitude_shift c h]

lemma unit_magnitude (hc : 0 < c) (e : Int) :
    unit (magnitude c e) = max (e + digitCount c - precision) tiniestExponent := by
  rw [unit, log_magnitude hc, adjusted, precision]
  congr 1
  push_cast
  omega

end Units

section Order

lemma nearest_le (h : x ≤ magnitude k (unit x)) : Rounding.halfEven.nearest (x / 10 ^ unit x) ≤ k := by
  have hunit : (0 : ℚ) < 10 ^ unit x := by positivity
  have hnearest : Rounding.halfEven.nearest (x / 10 ^ unit x) ≤ Rounding.halfEven.nearest k :=
    Rounding.nearest_mono ((div_le_iff₀ hunit).mpr h)
  rwa [Rounding.nearest_natCast] at hnearest

lemma le_nearest (h : magnitude k (unit x) ≤ x) : k ≤ Rounding.halfEven.nearest (x / 10 ^ unit x) := by
  have hunit : (0 : ℚ) < 10 ^ unit x := by positivity
  have hnearest : Rounding.halfEven.nearest k ≤ Rounding.halfEven.nearest (x / 10 ^ unit x) :=
    Rounding.nearest_mono ((le_div_iff₀ hunit).mpr h)
  rwa [Rounding.nearest_natCast] at hnearest

lemma rounded_le (h : x ≤ magnitude k (unit x)) : rounded x ≤ magnitude k (unit x) :=
  magnitude_le_magnitude.mpr (nearest_le h)

lemma le_rounded (h : magnitude k (unit x) ≤ x) : magnitude k (unit x) ≤ rounded x :=
  magnitude_le_magnitude.mpr (le_nearest h)

lemma le_largest (x : ℚ) : x ≤ magnitude (10 ^ precision) (unit x) := by
  rcases le_or_gt x 0 with hx | hx
  · exact hx.trans (magnitude_nonneg _ _)
  · rw [magnitude_pow]
    refine (log_bounds hx).2.le.trans (zpow_le_zpow_right₀ (by norm_num) ?_)
    unfold unit precision
    push_cast
    omega

lemma smallest_le (hx : 0 < x) (h : tiniestExponent < unit x) : magnitude (10 ^ 27) (unit x) ≤ x := by
  have hunit : ((27 : Nat) : Int) + unit x = Int.log 10 x := by
    unfold unit at *
    push_cast
    omega
  rw [magnitude_pow, hunit]
  exact (log_bounds hx).1

/-- The larger of two numbers is not rounded to the smaller one. -/
lemma rounded_mono (h : x ≤ y) : rounded x ≤ rounded y := by
  rcases le_or_gt x 0 with hx | hx
  · rw [rounded_of_nonpos hx]
    exact rounded_nonneg y
  · have hlog : Int.log 10 x ≤ Int.log 10 y := Int.log_mono_right hx h
    by_cases hunits : unit x = unit y
    · rw [rounded, rounded, hunits]
      exact magnitude_le_magnitude.mpr (Rounding.nearest_mono (div_le_div_of_nonneg_right h (by positivity)))
    · -- The units differ, so a power of ten that is no finer than either lies between the two numbers.
      have hless : Int.log 10 x < Int.log 10 y ∧ unit x ≤ Int.log 10 y ∧ unit y = Int.log 10 y - 27 ∧
          tiniestExponent < unit y := by
        unfold unit at *
        omega
      obtain ⟨k, hk⟩ : ∃ k : Nat, Int.log 10 y = k + unit x := ⟨(Int.log 10 y - unit x).toNat, by omega⟩
      have hpower : (10 : ℚ) ^ Int.log 10 y = magnitude (10 ^ k) (unit x) := by rw [magnitude_pow, hk]
      have hpower' : (10 : ℚ) ^ Int.log 10 y = magnitude (10 ^ 27) (unit y) := by
        rw [magnitude_pow]
        congr 1
        push_cast
        omega
      calc rounded x ≤ magnitude (10 ^ k) (unit x) := rounded_le <| by
            rw [← hpower]
            exact (log_bounds hx).2.le.trans (zpow_le_zpow_right₀ (by norm_num) (by omega))
        _ = magnitude (10 ^ 27) (unit y) := hpower.symm.trans hpower'
        _ ≤ rounded y := le_rounded (smallest_le (hx.trans_le h) hless.2.2.2)

end Order

section Fitting

variable {s t : Bool}

lemma dropPlaces_eq (mode : Rounding) (c places : Nat) :
    dropPlaces mode c places = mode.quotient c (tenPow places) := by
  unfold dropPlaces
  split_ifs with h
  · symm
    refine Rounding.quotient_eq (Nat.pow_pos (by omega)) ?_
    have hlt : (c : ℚ) < 10 ^ digitCount c := by exact_mod_cast lt_pow_digitCount c
    have hpow : (10 : ℚ) ^ digitCount c * 10 ≤ 10 ^ places := by
      rw [← pow_succ]
      exact pow_le_pow_right₀ (by norm_num) h
    rw [tenPow_cast, Nat.cast_zero, sub_zero, abs_of_nonneg (by positivity), div_lt_iff₀ (by positivity)]
    linarith
  · rfl

lemma carry_magnitude {q : Nat} (hq : q ≤ 10 ^ precision) (floor : Int) :
    let r := if precision < digitCount q then (q / 10, floor + 1) else (q, floor)
    magnitude r.1 r.2 = magnitude q floor ∧ r.2 ≤ floor + 1 := by
  intro r
  by_cases hcarry : precision < digitCount q
  · have hlarge : 10 ^ precision ≤ q := by
      by_contra h
      have := (digitCount_le_iff (by unfold precision; omega)).mpr (not_le.mp h)
      omega
    obtain rfl : q = 10 ^ precision := le_antisymm hq hlarge
    have hr : r = (10 ^ precision / 10, floor + 1) := if_pos hcarry
    rw [hr]
    refine ⟨?_, le_rfl⟩
    rw [magnitude_shift _ (by omega : floor ≤ floor + 1), show (floor + 1 - floor).toNat = 1 by omega]
    rfl
  · have hr : r = (q, floor) := if_neg hcarry
    rw [hr]
    exact ⟨rfl, by omega⟩

/-- What is not too large already is rounded, and may be too large then. -/
lemma fit_cases (s : Bool) (hc : 0 < c)
    (fits : e + digitCount c - precision ≤ maxExponent - precision + 1) :
    ∃ k g, magnitude k g = rounded (magnitude c e) ∧
      (fit s c e = .ok (finite s k g) ∨ fit s c e = .error .arithmeticOverflow ∧
        maxExponent - precision + 1 < g ∧ g ≤ unit (magnitude c e) + 1) := by
  have hunit := unit_magnitude hc e
  unfold fit
  simp only [if_neg hc.ne', if_neg (not_lt.mpr fits), ← hunit]
  by_cases hfine : e < unit (magnitude c e)
  · have hdigits := nearest_le (le_largest (magnitude c e))
    rw [if_pos hfine, dropPlaces_eq, ← nearest_magnitude c hfine.le]
    obtain ⟨hmagnitude, hexponent⟩ := carry_magnitude hdigits (unit (magnitude c e))
    rw [← rounded] at hmagnitude
    generalize (if precision < digitCount _ then _ else _ : Nat × Int) = carried at *
    refine ⟨carried.1, carried.2, hmagnitude, ?_⟩
    by_cases hlarge : maxExponent - precision + 1 < carried.2
    · exact .inr ⟨if_pos hlarge, hlarge, hexponent⟩
    · exact .inl (if_neg hlarge)
  · rw [if_neg hfine]
    exact ⟨c, e, (rounded_of_coarse (not_lt.mp hfine)).symm, .inl rfl⟩

lemma fit_rounded {r : Decimal} (h : fit s c e = .ok r) :
    ∃ k g, r = finite s k g ∧ magnitude k g = rounded (magnitude c e) := by
  rcases Nat.eq_zero_or_pos c with rfl | hc
  · rw [magnitude_zero, rounded_of_nonpos le_rfl]
    exact ⟨0, _, (Except.ok.inj h).symm, magnitude_zero _⟩
  · have fits : e + digitCount c - precision ≤ maxExponent - precision + 1 := by
      simp only [fit, if_neg hc.ne', unless_eq_ok] at h
      exact not_lt.mp h.1
    obtain ⟨k, g, hvalue, hok | ⟨herror, -⟩⟩ := fit_cases s hc fits
    · exact ⟨k, g, Except.ok.inj (h.symm.trans hok), hvalue⟩
    · rw [herror] at h
      cases h

lemma fit_isOk (s : Bool) (h : magnitude c e < 10 ^ (100 : Int)) : ∃ r, fit s c e = .ok r := by
  rcases Nat.eq_zero_or_pos c with rfl | hc
  · exact ⟨_, if_pos rfl⟩
  · have hadjusted : adjusted c e < 100 :=
      (zpow_lt_zpow_iff_right₀ (by norm_num : (1 : ℚ) < 10)).mp ((magnitude_bounds hc e).1.trans_lt h)
    have hunit := unit_magnitude hc e
    unfold adjusted at hadjusted
    unfold tiniestExponent maxExponent precision at hunit
    have fits : e + digitCount c - precision ≤ maxExponent - precision + 1 := by
      unfold maxExponent precision
      omega
    obtain ⟨k, g, -, hok | ⟨-, hlarge, hexponent⟩⟩ := fit_cases s hc fits
    · exact ⟨_, hok⟩
    · unfold maxExponent precision at hlarge
      omega

lemma magnitude_mul (c₁ c₂ : Nat) (e₁ e₂ : Int) :
    magnitude (c₁ * c₂) (e₁ + e₂) = magnitude c₁ e₁ * magnitude c₂ e₂ := by
  unfold magnitude
  rw [zpow_add₀ (by norm_num)]
  push_cast
  ring

lemma mul_rounded {c₁ c₂ : Nat} {e₁ e₂ : Int} {r : Decimal}
    (h : mul (finite s c₁ e₁) (finite t c₂ e₂) = .ok r) :
    ∃ c e, r = finite (s != t) c e ∧ magnitude c e = rounded (magnitude c₁ e₁ * magnitude c₂ e₂) := by
  rw [← magnitude_mul]
  exact fit_rounded h

end Fitting

end Assessment.Number.Decimal
