import Assessment.Proofs.Number.Hundredths
import Assessment.Proofs.Number.Precision
import Mathlib.Algebra.Order.Floor.Semifield

/-!
# How far a result is rounded

A result of 28 digits is off by one part in `10 ^ 27` at most. The digits that a division yields are rounded as
the quotient is, also where they end in one that stands for all that follow, so that a quotient is rounded once
only. And rounding to hundredths with a half going up is taking the floor of what is half a hundredth more.
-/

namespace Assessment.Number

lemma floor_of_close {a p : Nat} (hp : 0 < p) {y : ℚ} (hy : 0 ≤ y) (close : |y - a / p| < 1 / (2 * p)) :
    ⌊y + 1 / 2⌋₊ = ⌊(a : ℚ) / p + 1 / 2⌋₊ ∨ (a : ℚ) / p = ⌊y + 1 / 2⌋₊ + 1 / 2 ∧ y < a / p := by
  have hp' : (0 : ℚ) < p := by exact_mod_cast hp
  have hunit : (0 : ℚ) < 2 * p := by positivity
  have hfraction : (a : ℚ) / p + 1 / 2 = (2 * a + p : Nat) / (2 * p) := by
    push_cast
    field_simp
  have hone : (1 : ℚ) / (2 * p) ≤ 1 / 2 := by
    rw [div_le_div_iff₀ hunit (by norm_num)]
    exact_mod_cast (by omega : 1 * 2 ≤ 1 * (2 * p))
  obtain ⟨habove, hbelow⟩ := abs_lt.mp close
  have hlow := Nat.floor_le (a := (a : ℚ) / p + 1 / 2) (by positivity)
  have hhigh := Nat.lt_floor_add_one ((a : ℚ) / p + 1 / 2)
  generalize ⌊(a : ℚ) / p + 1 / 2⌋₊ = k at *
  rw [hfraction, le_div_iff₀ hunit] at hlow
  rw [hfraction, div_lt_iff₀ hunit] at hhigh
  have hlow' : k * (2 * p) ≤ 2 * a + p := by exact_mod_cast hlow
  have hhigh' : 2 * a + p + 1 ≤ (k + 1) * (2 * p) := by exact_mod_cast hhigh
  -- A sum that is no whole number is at least `1 / (2 * p)` away from one, on either side.
  have hnext : (a : ℚ) / p + 1 / 2 + 1 / (2 * p) ≤ k + 1 := by
    rw [hfraction, ← add_div, div_le_iff₀ hunit]
    exact_mod_cast hhigh'
  rcases hlow'.eq_or_lt with htie | hlt
  · have hhalf : (a : ℚ) / p + 1 / 2 = k := by
      rw [hfraction, div_eq_iff hunit.ne']
      exact_mod_cast htie.symm
    by_cases hless : y < a / p
    · obtain ⟨j, rfl⟩ : ∃ j, k = j + 1 := by
        refine Nat.exists_eq_succ_of_ne_zero ?_
        rintro rfl
        omega
      have hfloor : ⌊y + 1 / 2⌋₊ = j := by
        push_cast at hhalf
        rw [Nat.floor_eq_iff (by linarith)]
        constructor <;> linarith
      push_cast at hhalf
      exact .inr ⟨by rw [hfloor]; linarith, hless⟩
    · refine .inl ((Nat.floor_eq_iff (by linarith)).mpr ⟨?_, ?_⟩) <;> linarith
  · have hprevious : k + 1 / (2 * p) ≤ (a : ℚ) / p + 1 / 2 := by
      rw [hfraction, le_div_iff₀ hunit, add_mul, div_mul_cancel₀ _ hunit.ne']
      exact_mod_cast hlt
    refine .inl ((Nat.floor_eq_iff (by linarith)).mpr ⟨?_, ?_⟩) <;> linarith

lemma Rounding.halfUp_quotient (n : Nat) {d : Nat} (hd : 0 < d) :
    Rounding.halfUp.quotient n d = ⌊(n : ℚ) / d + 1 / 2⌋₊ := by
  have hd' : (0 : ℚ) < d := by exact_mod_cast hd
  have hfraction : (n : ℚ) / d + 1 / 2 = (2 * n + d : Nat) / (2 * d : Nat) := by
    push_cast
    field_simp
  have hmod := Nat.mod_lt n hd
  have hn := Nat.div_add_mod n d
  have hhalves : 2 * n + d = 2 * d * (n / d) + (2 * (n % d) + d) := by
    conv_lhs => rw [← hn]
    ring
  rw [hfraction, Nat.floor_div_eq_div, hhalves, Nat.mul_add_div (by omega)]
  unfold quotient
  dsimp only
  by_cases hlow : 2 * (n % d) < d
  · have hdown : (2 * (n % d) + d) / (2 * d) = 0 := Nat.div_eq_of_lt (by omega)
    rw [if_pos hlow, hdown, add_zero]
  · have hup : (2 * (n % d) + d) / (2 * d) = 1 := Nat.div_eq_of_lt_le (by omega) (by omega)
    rw [if_neg hlow, ite_self, hup]

lemma Rounding.halfUp_nearest {x : ℚ} (hx : 0 ≤ x) : Rounding.halfUp.nearest x = ⌊x + 1 / 2⌋₊ := by
  rw [nearest, halfUp_quotient _ (Rat.den_pos x), toNat_num_div_den hx]

namespace Decimal

section Errors

variable {x r : ℚ}

lemma exists_neighbours (hx : 0 < x) :
    ∃ low high, Short low ∧ Short high ∧ low ≤ x ∧ x ≤ high ∧
      high - low ≤ x / 10 ^ 27 + 10 ^ (-100 : Int) := by
  obtain ⟨n, hlow, hhigh⟩ := exists_mem_Ico_zpow hx (by norm_num : (1 : ℚ) < 10)
  have hunit : (0 : ℚ) < 10 ^ max (n - 27) (-100) := by positivity
  have hfloor := Nat.floor_le (a := x / 10 ^ max (n - 27) (-100)) (by positivity)
  have hceil := Nat.lt_floor_add_one (x / 10 ^ max (n - 27) (-100))
  have hdigits : x / 10 ^ max (n - 27) (-100) < (10 ^ precision : Nat) := by
    rw [div_lt_iff₀ hunit, precision, Nat.cast_pow, Nat.cast_ofNat, ← zpow_natCast,
      ← zpow_add₀ (by norm_num)]
    exact hhigh.trans_le (zpow_le_zpow_right₀ (by norm_num) (by push_cast; omega))
  generalize ⌊x / 10 ^ max (n - 27) (-100)⌋₊ = k at *
  have hk : k < 10 ^ precision := by exact_mod_cast hfloor.trans_lt hdigits
  have htiny : tiniestExponent ≤ max (n - 27) (-100) := by
    unfold tiniestExponent maxExponent precision
    omega
  rw [le_div_iff₀ hunit] at hfloor
  rw [div_lt_iff₀ hunit] at hceil
  refine ⟨_, _, short_magnitude hk.le htiny, short_magnitude (k := k + 1) hk htiny, hfloor,
    by simpa [magnitude] using hceil.le, ?_⟩
  have hgap : magnitude (k + 1) (max (n - 27) (-100)) - magnitude k (max (n - 27) (-100)) =
      10 ^ max (n - 27) (-100) := by
    unfold magnitude
    push_cast
    ring
  rw [hgap]
  rcases max_choice (n - 27) (-100) with hmax | hmax <;> rw [hmax]
  · have hpow : (10 : ℚ) ^ (n - 27) = 10 ^ n / 10 ^ 27 := by
      rw [zpow_sub₀ (by norm_num)]
      norm_cast
    rw [hpow]
    have := div_le_div_of_nonneg_right hlow (by positivity : (0 : ℚ) ≤ 10 ^ 27)
    have : (0 : ℚ) ≤ 10 ^ (-100 : Int) := by positivity
    linarith
  · have : (0 : ℚ) ≤ x / 10 ^ 27 := by positivity
    linarith

/-- What is rounded is off by little. -/
lemma Rounds.error (h : Rounds x r) (hx : 0 ≤ x) : |r - x| ≤ x / 10 ^ 27 + 10 ^ (-100 : Int) := by
  have hneighbours : ∃ low high, Short low ∧ Short high ∧ low ≤ x ∧ x ≤ high ∧
      high - low ≤ x / 10 ^ 27 + 10 ^ (-100 : Int) := by
    rcases hx.eq_or_lt with rfl | hpos
    · exact ⟨0, 0, short_zero, short_zero, le_rfl, le_rfl, by norm_num⟩
    · exact exists_neighbours hpos
  obtain ⟨low, high, hlow, hhigh, hlx, hxh, hgap⟩ := hneighbours
  have hrlow := h.low low hlow hlx
  have hrhigh := h.high high hhigh hxh
  rw [abs_le]
  constructor <;> linarith

end Errors

section Operations

variable {c₁ c₂ : Nat} {e₁ e₂ : Int} {y : ℚ}

lemma shifted_pow_le (h₁ : 0 < c₁) {shift : Int} {k : Nat}
    (hshift : digitCount c₂ + k - digitCount c₁ ≤ shift - 1) :
    10 ^ k * (c₂ * tenPow (-shift).toNat) ≤ c₁ * tenPow shift.toNat := by
  have hdigits : digitCount (10 ^ k * c₂) ≤ digitCount c₂ + k := by
    have hpos := digitCount_pos c₂
    rw [digitCount_le_iff (by omega), pow_add, mul_comm]
    exact Nat.mul_lt_mul_of_pos_right (lt_pow_digitCount c₂) (Nat.pow_pos (by omega))
  rw [← mul_assoc]
  exact shifted_le h₁ (by omega)

/-- Digits that stand for a quotient with a remainder: one digit more than is carried, and the last one is
neither 0 nor 5. -/
structure Jammed (n d c : Nat) : Prop where
  divisor : 0 < d
  large : 10 ^ 28 ≤ n / d
  remains : n % d ≠ 0
  digits : c = if n / d % 5 = 0 then n / d + 1 else n / d

lemma Jammed.bounds {n d c : Nat} (h : Jammed n d c) : n / d ≤ c ∧ c ≤ n / d + 1 ∧ c % 5 ≠ 0 := by
  have hdigits := h.digits
  split_ifs at hdigits <;> omega

lemma quotientDigits_jammed (e₁ e₂ : Int) (h₁ : 0 < c₁) (h₂ : 0 < c₂) :
    let r := quotientDigits c₁ e₁ c₂ e₂
    magnitude r.1 r.2 = magnitude c₁ e₁ / magnitude c₂ e₂ ∨
      ∃ n d, Jammed n d r.1 ∧ magnitude c₁ e₁ / magnitude c₂ e₂ = n / d * 10 ^ r.2 := by
  unfold quotientDigits
  dsimp only
  generalize hshift : (digitCount c₂ : Int) - digitCount c₁ + precision + 1 = shift
  have hpow : 10 ^ 28 * (c₂ * tenPow (-shift).toNat) ≤ c₁ * tenPow shift.toNat :=
    shifted_pow_le h₁ (by unfold precision at hshift; push_cast; omega)
  have hd : 0 < c₂ * tenPow (-shift).toNat := Nat.mul_pos h₂ (Nat.pow_pos (by omega))
  rw [← shifted_ratio h₂ shift]
  generalize c₁ * tenPow shift.toNat = n at *
  generalize c₂ * tenPow (-shift).toNat = d at *
  have large : 10 ^ 28 ≤ n / d := (Nat.le_div_iff_mul_le hd).mpr hpow
  split_ifs with hexact hfifth
  · have hquotient : ((n / d : Nat) : ℚ) = n / d :=
      Nat.cast_div (Nat.dvd_of_mod_eq_zero hexact) (by exact_mod_cast hd.ne')
    rw [stripZeros_magnitude, magnitude, hquotient]
    exact .inl rfl
  · exact .inr ⟨n, d, ⟨hd, large, hexact, (if_pos hfifth).symm⟩, rfl⟩
  · exact .inr ⟨n, d, ⟨hd, large, hexact, (if_neg hfifth).symm⟩, rfl⟩

/-- The last digit is on the same side of a half as all the digits that it stands for. -/
lemma Jammed.quotient {n d : Nat} (h : Jammed n d c) (j : Nat) :
    Rounding.halfEven.quotient n (d * 10 ^ (j + 1)) = Rounding.halfEven.quotient c (10 ^ (j + 1)) := by
  obtain ⟨hd, -, remains, hc⟩ := h
  have hr := Nat.mod_lt n hd
  have hn := Nat.div_add_mod n d
  have hten : 10 ^ (j + 1) = 10 * 10 ^ j := by rw [pow_succ, mul_comm]
  have hHpos : 0 < 10 ^ j := Nat.pow_pos (by omega)
  rw [hten]
  generalize 10 ^ j = H at *
  generalize n / d = q at *
  generalize n % d = r at *
  have hq := Nat.div_add_mod q (10 * H)
  have hw := Nat.mod_lt q (by omega : 0 < 10 * H)
  have hfifth : q % (10 * H) % 5 = q % 5 := Nat.mod_mod_of_dvd q ⟨2 * H, by ring⟩
  generalize q / (10 * H) = t at *
  generalize q % (10 * H) = w at *
  have hexact : n = d * (10 * H) * t + (d * w + r) := by
    rw [← hn, ← hq]
    ring
  obtain ⟨v, hv, hv5, hlow, hhigh⟩ : ∃ v, c = 10 * H * t + v ∧ v % 5 ≠ 0 ∧ w ≤ v ∧ v ≤ w + 1 := by
    split_ifs at hc with hzero
    · exact ⟨w + 1, by omega, by omega, by omega, by omega⟩
    · exact ⟨w, by omega, by omega, le_rfl, by omega⟩
  rw [hexact, hv]
  by_cases hhalf : w < 5 * H
  · have hsmall : 2 * (d * w + r) < d * (10 * H) := by nlinarith
    rw [Rounding.quotient_of_small hsmall, Rounding.quotient_of_small (by omega)]
  · have hlarge : d * (10 * H) < 2 * (d * w + r) := by
      have : d * (5 * H) ≤ d * w := Nat.mul_le_mul_left d (not_lt.mp hhalf)
      have : d * (10 * H) = 2 * (d * (5 * H)) := by ring
      omega
    have hrest : d * w + r < d * (10 * H) := by nlinarith
    rw [Rounding.quotient_of_large hlarge hrest, Rounding.quotient_of_large (by omega) (by omega)]

lemma Jammed.log {n d : Nat} (h : Jammed n d c) (g : Int) :
    Int.log 10 ((n : ℚ) / d * 10 ^ g) = Int.log 10 (magnitude c g) := by
  obtain ⟨hlow, hhigh, hfifth⟩ := h.bounds
  have hlarge := h.large
  have hd := h.divisor
  have hd' : (0 : ℚ) < d := by exact_mod_cast hd
  have hunit : (0 : ℚ) < 10 ^ g := by positivity
  have hcpos : 0 < c := by omega
  obtain ⟨K, hK⟩ : ∃ K, digitCount c = K + 1 := ⟨digitCount c - 1, by have := digitCount_pos c; omega⟩
  have hclow := pow_le_of_digitCount hcpos
  have hchigh := lt_pow_digitCount c
  rw [hK, Nat.add_sub_cancel] at hclow
  rw [hK] at hchigh
  -- A power of ten ends in zero, so the digits do not reach one that the quotient does not reach.
  have hten : 10 ^ K ≤ n / d ∧ n / d + 1 ≤ 10 ^ (K + 1) := by
    have hpow : 0 < K := by
      by_contra hzero
      obtain rfl : K = 0 := by omega
      omega
    have hdvd : 10 ^ K % 5 = 0 := Nat.mod_eq_zero_of_dvd (dvd_pow (by norm_num) hpow.ne')
    constructor <;> omega
  rw [log_magnitude hcpos, adjusted, hK]
  refine log_eq ?_ ?_
  · rw [show g + (K + 1 : Nat) - 1 = K + g by push_cast; omega, zpow_add₀ (by norm_num), zpow_natCast]
    refine mul_le_mul_of_nonneg_right ?_ hunit.le
    rw [le_div_iff₀ hd']
    exact_mod_cast (Nat.le_div_iff_mul_le hd).mp hten.1
  · rw [show g + (K + 1 : Nat) - 1 + 1 = (K + 1 : Nat) + g by omega, zpow_add₀ (by norm_num), zpow_natCast]
    refine mul_lt_mul_of_pos_right ?_ hunit
    rw [div_lt_iff₀ hd']
    exact_mod_cast (Nat.div_lt_iff_lt_mul hd).mp hten.2

lemma Jammed.rounded {n d : Nat} (h : Jammed n d c) (g : Int) :
    rounded (magnitude c g) = rounded (n / d * 10 ^ g) := by
  obtain ⟨hlow, -, -⟩ := h.bounds
  have hd := h.divisor
  have hlarge : 10 ^ 28 ≤ c := h.large.trans hlow
  have hdigits : 28 < digitCount c := by
    by_contra hfew
    have := (digitCount_le_iff (by norm_num)).mp (not_lt.mp hfew)
    omega
  have hunits : unit ((n : ℚ) / d * 10 ^ g) = unit (magnitude c g) := by rw [unit, unit, h.log g]
  obtain ⟨j, hj⟩ : ∃ j : Nat, unit (magnitude c g) - g = (j + 1 : Nat) := by
    refine ⟨(unit (magnitude c g) - g - 1).toNat, ?_⟩
    rw [unit_magnitude (by omega)]
    unfold precision
    omega
  have hscaled : (n : ℚ) / d * 10 ^ g / 10 ^ unit (magnitude c g) = n / (d * 10 ^ (j + 1) : Nat) := by
    have hpow : unit (magnitude c g) = g + (j + 1 : Nat) := by omega
    rw [hpow, zpow_add₀ (by norm_num), zpow_natCast]
    push_cast
    field_simp
  rw [Decimal.rounded, Decimal.rounded, hunits, hscaled,
    Rounding.nearest_div n (Nat.mul_pos hd (Nat.pow_pos (by omega))), nearest_magnitude c (by omega), hj,
    h.quotient]
  rfl

lemma rounded_quotientDigits (h₁ : 0 < c₁) (h₂ : 0 < c₂) :
    let r := quotientDigits c₁ e₁ c₂ e₂
    rounded (magnitude r.1 r.2) = rounded (magnitude c₁ e₁ / magnitude c₂ e₂) := by
  intro r
  rcases quotientDigits_jammed e₁ e₂ h₁ h₂ with hexact | ⟨n, d, hjammed, hratio⟩
  · rw [hexact]
  · rw [hratio]
    exact hjammed.rounded r.2

lemma div_rounded {s t : Bool} (h₁ : 0 < c₁) (h₂ : 0 < c₂) {r : Decimal}
    (h : div (finite s c₁ e₁) (finite t c₂ e₂) = .ok r) :
    ∃ c e, r = finite (s != t) c e ∧ magnitude c e = rounded (magnitude c₁ e₁ / magnitude c₂ e₂) := by
  unfold div at h
  simp only [if_neg h₁.ne', if_neg h₂.ne'] at h
  rw [← rounded_quotientDigits h₁ h₂]
  exact fit_rounded h

lemma div_rounds {s t : Bool} (h₁ : 0 < c₁) (h₂ : 0 < c₂) {r : Decimal}
    (h : div (finite s c₁ e₁) (finite t c₂ e₂) = .ok r) :
    ∃ c e, r = finite (s != t) c e ∧ Rounds (magnitude c₁ e₁ / magnitude c₂ e₂) (magnitude c e) := by
  obtain ⟨c, e, hr, hvalue⟩ := div_rounded h₁ h₂ h
  exact ⟨c, e, hr, hvalue ▸ rounds_rounded _⟩

lemma mul_rounds {s t : Bool} {r : Decimal} (h : mul (finite s c₁ e₁) (finite t c₂ e₂) = .ok r) :
    ∃ c e, r = finite (s != t) c e ∧ Rounds (magnitude c₁ e₁ * magnitude c₂ e₂) (magnitude c e) := by
  obtain ⟨c, e, hr, hvalue⟩ := mul_rounded h
  exact ⟨c, e, hr, hvalue ▸ rounds_rounded _⟩

end Operations

lemma toHundredths_nearest {mode : Rounding} {s t : Bool} {c n : Nat} {e : Int}
    (h : (finite s c e).toHundredths mode = .ok (finite t n (-2))) :
    t = s ∧ n = mode.nearest (magnitude c e * 100) := by
  unfold toHundredths at h
  by_cases hc : c = 0
  · simp only [hc, if_true, Except.ok.injEq, finite.injEq] at h
    rw [hc, magnitude_zero, zero_mul, Rounding.nearest_of_nonpos le_rfl]
    exact ⟨h.1.symm, h.2.1.symm⟩
  · simp only [hc, if_false, unless_eq_ok, Except.ok.injEq, finite.injEq] at h
    refine ⟨h.2.2.1.symm, ?_⟩
    rw [← h.2.2.2.1]
    by_cases hfine : e < -2
    · have hpos : 0 < tenPow (-2 - e).toNat := Nat.pow_pos (by norm_num)
      rw [if_pos hfine, dropPlaces_eq, ← shifted_hundredths c hfine, ← tenPow_cast, Rounding.nearest_div c hpos]
    · rw [if_neg hfine, ← widened_hundredths c (not_lt.mp hfine), Rounding.nearest_natCast]

lemma toHundredths_halfUp {s t : Bool} {c n : Nat} {e : Int}
    (h : (finite s c e).toHundredths .halfUp = .ok (finite t n (-2))) :
    t = s ∧ n = ⌊magnitude c e * 100 + 1 / 2⌋₊ := by
  rw [← Rounding.halfUp_nearest (by have := magnitude_nonneg c e; positivity)]
  exact toHundredths_nearest h

end Decimal

end Assessment.Number
