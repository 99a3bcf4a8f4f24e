import Assessment.Proofs.Gradebook.Scaling
import Assessment.Proofs.Number.Quotients

/-!
# How exact a projection is

A score is divided by the points before it is multiplied by the maximum of an item, and each result is
rounded to 28 digits. The projection is still nearest to the exact one, and a half goes up unless the
division has lost it.
-/

namespace Assessment

open Number Decimal

namespace Gradebook

variable {score points maximum : Decimal} {n : Nat}

/-- The quotient of a score and its points is rounded down, and its product with the maximum stays below the
exact one. -/
def LosesShare (score points maximum : Decimal) : Prop :=
  ∃ share scaled, score.div points = .ok share ∧ share.mul maximum = .ok scaled ∧
    share.value < score.value / points.value ∧
    scaled.value < score.value / points.value * maximum.value

lemma short_one : Short 1 := ⟨1, 0, by decide, by decide, by simp [magnitude]⟩

lemma short_half {k : Nat} (h : k ≤ 999999) : Short ((k + 1 / 2) / 100) := by
  refine ⟨(2 * k + 1) * 5, -3, ?_, by decide, ?_⟩
  · rw [precision]
    omega
  · unfold magnitude
    push_cast
    norm_num
    ring

section Parts

variable {c d m : Nat} {e e' f : Int}

lemma toHundredths_floor {k : Nat} {g : Int} (small : magnitude k g ≤ 10 ^ 4) :
    (Decimal.finite false k g).toHundredths .halfUp =
      .ok (.finite false ⌊magnitude k g * 100 + 1 / 2⌋₊ (-2)) := by
  have hfew : FewDigits (.finite false k g) := by
    rw [FewDigits, abs_value_finite]
    norm_num
    linarith
  obtain ⟨t, r, hrounded⟩ : ∃ t r, (Decimal.finite false k g).toHundredths .halfUp =
      .ok (.finite t r (-2)) := toHundredths_isOk rfl hfew
  obtain ⟨rfl, hr⟩ := toHundredths_halfUp hrounded
  rw [hrounded, hr]

lemma project_of_rounded {share scaled : Decimal} {r : Nat} (hd : 0 < d)
    (divided : (Decimal.finite false c e).div (.finite false d e') = .ok share)
    (multiplied : share.mul (.finite false m f) = .ok scaled)
    (rounded : scaled.toHundredths .halfUp = .ok (.finite false r (-2)))
    (le : magnitude r (-2) ≤ magnitude m f) :
    project (.finite false c e) (.finite false d e') (.finite false m f) = .ok (.finite false r (-2)) := by
  have hpoints : (Decimal.finite false d e').atMost .zero = .ok false := atMost_zero_of_pos hd e'
  have hlow : (Decimal.finite false r (-2)).less .zero = .ok false := by
    rw [zero, less_finite, value_finite, value_finite, if_neg Bool.false_ne_true, magnitude_zero]
    simpa using magnitude_nonneg r (-2)
  have hhigh : (Decimal.finite false m f).less (.finite false r (-2)) = .ok false := by
    rw [less_finite]
    exact congrArg _ (decide_eq_false (not_lt.mpr le))
  simp [project, hpoints, divided, multiplied, rounded, hlow, hhigh]

lemma project_floor (hc : 0 < c) (hd : 0 < d) (le : magnitude c e ≤ magnitude d e')
    (maximum : magnitude m f = n / 100) (hn : n ≤ 999999) :
    ∃ k g k' g', (Decimal.finite false c e).div (.finite false d e') = .ok (.finite false k g) ∧
      Rounds (magnitude c e / magnitude d e') (magnitude k g) ∧
      (Decimal.finite false k g).mul (.finite false m f) = .ok (.finite false k' g') ∧
      Rounds (magnitude k g * (n / 100)) (magnitude k' g') ∧
      ⌊magnitude k' g' * 100 + 1 / 2⌋₊ ≤ n ∧
      project (.finite false c e) (.finite false d e') (.finite false m f) =
        .ok (.finite false ⌊magnitude k' g' * 100 + 1 / 2⌋₊ (-2)) := by
  have hn' : (n : ℚ) ≤ 999999 := by exact_mod_cast hn
  have hratio : magnitude c e / magnitude d e' ≤ 1 := div_le_one_of_le₀ le (magnitude_pos hd e').le
  obtain ⟨_, _, hdiv, -⟩ := div_isOk false false hc hd
    (y := 2) ⟨2, 0, by decide, by decide, by simp [magnitude]⟩ (by norm_num)
    (by linarith : 2 * (magnitude c e / magnitude d e') ≤ 2)
  obtain ⟨k, g, hshare, hrounds⟩ := div_rounds hc hd hdiv
  rw [hshare] at hdiv
  have hproduct : magnitude k g * magnitude m f ≤ n / 100 := by
    rw [maximum]
    exact mul_le_of_le_one_left (by positivity) (hrounds.high 1 short_one hratio)
  have hshort : Short ((n : ℚ) / 100) :=
    ⟨n, -2, hn.trans (by decide), by decide, (magnitude_hundredths n).symm⟩
  obtain ⟨_, _, hmul, -⟩ := mul_isOk false false hshort (by norm_num; linarith) hproduct
  obtain ⟨k', g', hscaled, hrounds'⟩ := mul_rounds hmul
  rw [hscaled] at hmul
  have hle : magnitude k' g' ≤ n / 100 := hrounds'.high _ hshort hproduct
  have hfloor : ⌊magnitude k' g' * 100 + 1 / 2⌋₊ ≤ n := by
    rw [← Nat.lt_succ_iff, Nat.floor_lt (by have := magnitude_nonneg k' g'; positivity)]
    push_cast
    linarith
  refine ⟨k, g, k', g', hdiv, hrounds, hmul, maximum ▸ hrounds', hfloor, ?_⟩
  refine project_of_rounded hd hdiv hmul (toHundredths_floor (by linarith)) ?_
  rw [maximum, magnitude_hundredths]
  gcongr

/-- Rounded twice, the product of a share and a maximum is off by little, also in hundredths. -/
lemma scaled_error {share maximum v w : ℚ} (nonneg : 0 ≤ share) (le : share ≤ 1) (low : 0 ≤ maximum)
    (high : maximum ≤ 10 ^ 4) (divided : Rounds share v) (scaled : Rounds (v * maximum) w) :
    |w * 100 - share * maximum * 100| ≤ 3 / 10 ^ 21 := by
  have hv : 0 ≤ v := divided.low 0 short_zero nonneg
  have hone : v ≤ 1 := divided.high 1 short_one le
  have hshare := divided.error nonneg
  have hscaled := scaled.error (mul_nonneg hv low)
  have hproduct : v * maximum ≤ 10 ^ 4 := (mul_le_of_le_one_left low hone).trans high
  have hmoved : |v * maximum - share * maximum| ≤ (1 / 10 ^ 27 + 10 ^ (-100 : Int)) * 10 ^ 4 := by
    rw [← sub_mul, abs_mul, abs_of_nonneg low]
    refine mul_le_mul (hshare.trans ?_) high low (by positivity)
    linarith
  calc |w * 100 - share * maximum * 100| = |w - share * maximum| * 100 := by
        rw [← sub_mul, abs_mul, abs_of_pos (by norm_num : (0 : ℚ) < 100)]
    _ ≤ (|w - v * maximum| + |v * maximum - share * maximum|) * 100 := by
        gcongr
        exact abs_sub_le ..
    _ ≤ (10 ^ 4 / 10 ^ 27 + 10 ^ (-100 : Int) + (1 / 10 ^ 27 + 10 ^ (-100 : Int)) * 10 ^ 4) * 100 := by
        linarith
    _ ≤ 3 / 10 ^ 21 := by norm_num

/-- A rounded product that is below a tie comes from a quotient that was rounded down: a product that is no
smaller than what half a hundredth takes is not rounded below it. -/
lemma rounded_down {share maximum v w : ℚ} {k : Nat} (low : 0 ≤ maximum) (fits : k ≤ 999999)
    (tie : share * maximum = (k + 1 / 2) / 100) (scaled : Rounds (v * maximum) w)
    (below : w < share * maximum) : v < share := by
  by_contra hkept
  have hshort : Short (share * maximum) := tie ▸ short_half fits
  have hproduct : share * maximum ≤ v * maximum := mul_le_mul_of_nonneg_right (not_lt.mp hkept) low
  exact absurd (scaled.low _ hshort hproduct) (not_le.mpr below)

end Parts

lemma scale_floor {c p : Nat} (hscore : score.IsHundredths c) (hpoints : points.IsHundredths p)
    (hmaximum : maximum.IsHundredths n) (le : c ≤ p) (something : 0 < c) (positive : 0 < n)
    (fits : n ≤ 999999) :
    ∃ share scaled, score.div points = .ok share ∧ Rounds (c / p) share.value ∧
      share.mul maximum = .ok scaled ∧ Rounds (share.value * (n / 100)) scaled.value ∧
      ⌊scaled.value * 100 + 1 / 2⌋₊ ≤ n ∧
      scale (some score) (some points) maximum =
        .ok (.finite false ⌊scaled.value * 100 + 1 / 2⌋₊ (-2)) := by
  obtain ⟨c', e, hc, rfl, hcvalue⟩ := hscore.pos something
  obtain ⟨p', e', hp, rfl, hpvalue⟩ := hpoints.pos (something.trans_le le)
  obtain ⟨m, f, hm, rfl, hmvalue⟩ := hmaximum.pos positive
  have hle : magnitude c' e ≤ magnitude p' e' := by
    rw [hcvalue, hpvalue]
    gcongr
  obtain ⟨k, g, k', g', hdiv, hrounds, hmul, hrounds', hfloor, hproject⟩ :=
    project_floor hc hp hle hmvalue fits
  rw [hcvalue, hpvalue, div_div_div_cancel_right₀ (by norm_num)] at hrounds
  exact ⟨_, _, hdiv, hrounds, hmul, hrounds', hfloor,
    by simpa [scale, isZero, hc.ne', hp.ne', value_finite] using hproject⟩

/-- A score of no more than the points that were to be had is projected onto the scale of an item, whose
maximum is at most 9999.99: the result is at most the maximum and nearest to the exact projection, up to the
digits that are lost in rounding. If the points have no more than twenty digits, then the result is the
exact projection with a half going up, unless the exact one is half way between two hundredths and the
division has lost what is needed to see this. -/
theorem projection_rounds_half_up_unless_lost {c p : Nat} (hscore : score.IsHundredths c)
    (hpoints : points.IsHundredths p) (hmaximum : maximum.IsHundredths n) (le : c ≤ p) (something : 0 < p)
    (positive : 0 < n) (fits : n ≤ 999999) :
    let exact : ℚ := (c * n : Nat) / p
    ∃ k ≤ n, scale (some score) (some points) maximum = .ok (.finite false k (-2)) ∧
      |k - exact| ≤ 1 / 2 + 1 / 10 ^ 20 ∧
      (p ≤ 10 ^ 20 → k = ⌊exact + 1 / 2⌋₊ ∨ exact = k + 1 / 2 ∧ LosesShare score points maximum) := by
  intro exact
  have hp : (0 : ℚ) < p := by exact_mod_cast something
  rcases Nat.eq_zero_or_pos c with rfl | hc
  · have hexact : exact = 0 := by simp [exact]
    refine ⟨0, Nat.zero_le n, ?_, ?_, fun _ => .inl ?_⟩
    · simp [scale, hscore.zero, zeroHundredths]
    · rw [hexact]
      norm_num
    · rw [hexact, eq_comm, Nat.floor_eq_zero]
      norm_num
  · have hle : (c : ℚ) ≤ p := by exact_mod_cast le
    have hn : (n : ℚ) ≤ 999999 := by exact_mod_cast fits
    have hexact : exact = c / p * (n / 100) * 100 := by
      simp only [exact]
      push_cast
      ring
    have hratio : score.value / points.value = c / p := by
      rw [hscore.2, hpoints.2, div_div_div_cancel_right₀ (by norm_num)]
    obtain ⟨share, scaled, hdiv, hrounds, hmul, hrounds', hfloor, hscale⟩ :=
      scale_floor hscore hpoints hmaximum le hc positive fits
    have hnonneg : 0 ≤ scaled.value := hrounds'.low 0 short_zero
      (mul_nonneg (hrounds.low 0 short_zero (by positivity)) (by positivity))
    have hclose : |scaled.value * 100 - exact| ≤ 3 / 10 ^ 21 := by
      rw [hexact]
      exact scaled_error (by positivity) (div_le_one_of_le₀ hle hp.le) (by positivity) (by linarith)
        hrounds hrounds'
    have hbelow := Nat.floor_le (a := scaled.value * 100 + 1 / 2) (by positivity)
    have habove := Nat.lt_floor_add_one (scaled.value * 100 + 1 / 2)
    refine ⟨_, hfloor, hscale, ?_, fun few => ?_⟩
    · obtain ⟨hlow, hhigh⟩ := abs_le.mp hclose
      rw [abs_le]
      constructor <;> linarith
    · have hapart : (3 : ℚ) / 10 ^ 21 < 1 / (2 * p) := by
        have : (p : ℚ) ≤ 10 ^ 20 := by exact_mod_cast few
        rw [div_lt_div_iff₀ (by norm_num) (by positivity)]
        linarith
      refine (floor_of_close something (by positivity) (hclose.trans_lt hapart)).imp_right ?_
      rintro ⟨htie, hless⟩
      change exact = _ at htie
      change _ < exact at hless
      have hlost : scaled.value < c / p * (n / 100) := by linarith
      refine ⟨htie, share, scaled, hdiv, hmul, ?_, ?_⟩
      · rw [hratio]
        exact rounded_down (by positivity) (hfloor.trans fits) (by linarith) hrounds' hlost
      · rwa [hratio, hmaximum.2]

lemma isHundredths_finite (n : Nat) : (Decimal.finite false n (-2)).IsHundredths n :=
  ⟨rfl, magnitude_hundredths n⟩

lemma lostTie_scale : scale (some (.finite false 1300 (-2))) (some (.finite false 4800 (-2)))
    (.finite false 3000 (-2)) = .ok (.finite false 812 (-2)) := by
  decide +kernel

lemma lostTie_floor : ⌊((1300 * 3000 : Nat) : ℚ) / (4800 : Nat) + 1 / 2⌋₊ = 813 := by
  rw [Nat.floor_eq_iff (by positivity)]
  norm_num

theorem projection_rounds_half_up_unless_lost_of_tie :
    scale (some (.finite false 1300 (-2))) (some (.finite false 4800 (-2))) (.finite false 3000 (-2)) =
        .ok (.finite false 812 (-2)) ∧
      LosesShare (.finite false 1300 (-2)) (.finite false 4800 (-2)) (.finite false 3000 (-2)) := by
  obtain ⟨k, -, hscale, -, hexact⟩ := projection_rounds_half_up_unless_lost (isHundredths_finite 1300)
    (isHundredths_finite 4800) (isHundredths_finite 3000) (by norm_num) (by norm_num) (by norm_num)
    (by norm_num)
  refine ⟨lostTie_scale, ?_⟩
  rcases hexact (by norm_num) with hfloor | ⟨-, hlost⟩
  · rw [lostTie_floor] at hfloor
    rw [lostTie_scale, hfloor] at hscale
    cases hscale
  · exact hlost

/-- The half of a tie may be lost, and then the projection is a hundredth too small. -/
theorem projection_misses_half_up :
    ¬∀ c p n : Nat, c ≤ p → 0 < p → 0 < n → n ≤ 999999 →
      scale (some (.finite false c (-2))) (some (.finite false p (-2))) (.finite false n (-2)) =
        .ok (.finite false ⌊((c * n : Nat) : ℚ) / p + 1 / 2⌋₊ (-2)) := by
  intro hclaim
  have hup := hclaim 1300 4800 3000 (by norm_num) (by norm_num) (by norm_num) (by norm_num)
  rw [lostTie_scale, lostTie_floor] at hup
  cases hup

end Gradebook

end Assessment
