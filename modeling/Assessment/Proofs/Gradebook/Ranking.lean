import Assessment.Proofs.Gradebook.Projecting

/-!
# Projections keep the ranking

A projection rounds three times and is clamped twice, and each of these keeps the order of what it is applied
to. So a student with a higher score in a quiz is not projected below one with a lower score, nothing is
projected to nothing, and all the points that were to be had, or more, are projected to the maximum.
-/

namespace Assessment

open Number Decimal

namespace Gradebook

/-- The hundredths that a score is projected to. -/
def projectedHundredths (score points : ℚ) (n : Nat) : Nat :=
  min (Rounding.halfUp.nearest (rounded (rounded (score / points) * (n / 100)) * 100)) n

section Hundredths

variable {score score' points : ℚ} {n : Nat}

lemma projectedHundredths_mono (hpoints : 0 < points) (h : score ≤ score') (n : Nat) :
    projectedHundredths score points n ≤ projectedHundredths score' points n := by
  have hshare : rounded (score / points) ≤ rounded (score' / points) :=
    rounded_mono (div_le_div_of_nonneg_right h hpoints.le)
  have hscaled : rounded (rounded (score / points) * (n / 100)) ≤
      rounded (rounded (score' / points) * (n / 100)) :=
    rounded_mono (mul_le_mul_of_nonneg_right hshare (by positivity))
  exact min_le_min_right n (Rounding.nearest_mono (by linarith))

lemma projectedHundredths_of_nonpos (hpoints : 0 < points) (h : score ≤ 0) (n : Nat) :
    projectedHundredths score points n = 0 := by
  have hshare : rounded (score / points) = 0 := rounded_of_nonpos (div_nonpos_of_nonpos_of_nonneg h hpoints.le)
  rw [projectedHundredths, hshare, zero_mul, rounded_of_nonpos le_rfl, zero_mul,
    Rounding.nearest_of_nonpos le_rfl, Nat.zero_min]

lemma rounded_one : rounded 1 = 1 := (rounds_rounded 1).eq_of_short short_one

lemma rounded_hundredths (fits : n ≤ 999999) : rounded (n / 100) = n / 100 := by
  rw [← magnitude_hundredths]
  exact (rounds_rounded _).eq_of_short (short_magnitude (fits.trans (by decide)) (by decide))

lemma projectedHundredths_of_all (hpoints : 0 < points) (h : points ≤ score) (fits : n ≤ 999999) :
    projectedHundredths score points n = n := by
  have hshare : 1 ≤ rounded (score / points) := by
    rw [← rounded_one]
    exact rounded_mono ((one_le_div hpoints).mpr h)
  have hscaled : (n : ℚ) / 100 ≤ rounded (rounded (score / points) * (n / 100)) := by
    rw [← rounded_hundredths fits]
    refine rounded_mono ?_
    rw [rounded_hundredths fits]
    exact le_mul_of_one_le_left (by positivity) hshare
  have hnearest : Rounding.halfUp.nearest n ≤
      Rounding.halfUp.nearest (rounded (rounded (score / points) * (n / 100)) * 100) :=
    Rounding.nearest_mono (by linarith)
  rw [Rounding.nearest_natCast] at hnearest
  exact min_eq_right hnearest

end Hundredths

section Projections

variable {score points maximum result : Decimal} {n : Nat}

lemma quantized_of_isHundredths {mode : Rounding} (h : maximum.IsHundredths n) (positive : 0 < n)
    (h' : maximum.toHundredths mode = .ok result) : result = .finite false n (-2) := by
  obtain ⟨m, f, -, rfl, hvalue⟩ := h.pos positive
  obtain ⟨s, k, -, rfl⟩ := toHundredths_finite rfl h'
  obtain ⟨rfl, rfl⟩ := toHundredths_nearest h'
  rw [hvalue, div_mul_cancel₀ _ (by norm_num), Rounding.nearest_natCast]

lemma unclamped {s : Bool} {c d m : Nat} {e f g : Int} {share scaled value : Decimal} (hc : 0 < c) (hd : 0 < d)
    (divided : (Decimal.finite s c e).div (.finite false d f) = .ok share)
    (multiplied : share.mul (.finite false m g) = .ok scaled)
    (quantized : scaled.toHundredths .halfUp = .ok value) :
    value = .finite s (Rounding.halfUp.nearest
      (rounded (rounded (magnitude c e / magnitude d f) * magnitude m g) * 100)) (-2) := by
  obtain ⟨c', e', rfl, hshare⟩ := div_rounded hc hd divided
  obtain ⟨k, h, rfl, hscaled⟩ := mul_rounded multiplied
  obtain ⟨t, w, -, rfl⟩ := toHundredths_finite rfl quantized
  obtain ⟨rfl, rfl⟩ := toHundredths_nearest quantized
  rw [hscaled, hshare, Bool.bne_false, Bool.bne_false]

lemma less_hundredths {m w : Nat} {g : Int} (hvalue : magnitude m g = n / 100) :
    (Decimal.finite false m g).less (.finite false w (-2)) = .ok (Decidable.decide (n < w)) := by
  rw [less_finite, value_finite, value_finite, if_neg Bool.false_ne_true, if_neg Bool.false_ne_true, hvalue,
    magnitude_hundredths]
  simp only [div_lt_div_iff_of_pos_right (by norm_num : (0 : ℚ) < 100), Nat.cast_lt]

/-- What a score that is not zero is projected to. Only zero may carry a sign. -/
lemma project_eq_ok {s : Bool} {c d : Nat} {e f : Int} (hc : 0 < c) (hd : 0 < d)
    (hmaximum : maximum.IsHundredths n) (positive : 0 < n)
    (h : project (.finite s c e) (.finite false d f) maximum = .ok result) :
    ∃ t, result = .finite t (projectedHundredths (Decimal.finite s c e).value (magnitude d f) n) (-2) ∧
      (t = true → projectedHundredths (Decimal.finite s c e).value (magnitude d f) n = 0) := by
  have hpoints := magnitude_pos hd f
  obtain ⟨m, g, hm, rfl, hvalue⟩ := hmaximum.pos positive
  have hsome : (Decimal.finite false d f).atMost .zero = .ok false := atMost_zero_of_pos hd f
  simp only [project, hsome, bind_eq_ok, Except.ok.injEq, exists_eq_left', Bool.false_eq_true, if_false] at h
  obtain ⟨share, hdiv, scaled, hmul, value, hquantized, low, hlow, h⟩ := h
  obtain ⟨w, hw, rfl⟩ : ∃ w, w = Rounding.halfUp.nearest
      (rounded (rounded (magnitude c e / magnitude d f) * (n / 100)) * 100) ∧ value = .finite s w (-2) := by
    rw [← hvalue]
    exact ⟨_, rfl, unclamped hc hd hdiv hmul hquantized⟩
  rw [zero, less_finite, Except.ok.injEq] at hlow
  cases s with
  | true =>
    have hnothing : projectedHundredths (Decimal.finite true c e).value (magnitude d f) n = 0 :=
      projectedHundredths_of_nonpos hpoints (by simp [value_finite, magnitude_nonneg]) n
    rw [hnothing]
    rcases Nat.eq_zero_or_pos w with rfl | hpos
    · have hkept : low = false := by simp [← hlow, value_finite]
      have hhigh : (Decimal.finite false m g).less (.finite true 0 (-2)) = .ok false := by
        rw [less_finite]
        simp [value_finite, magnitude_nonneg]
      rw [hkept, hhigh] at h
      exact ⟨true, (pure_eq_ok.mp h).symm, fun _ => rfl⟩
    · have hraised : low = true := by simp [← hlow, value_finite, magnitude_pos hpos]
      rw [hraised] at h
      exact ⟨false, (pure_eq_ok.mp h).symm, fun _ => rfl⟩
  | false =>
    have hprojected : projectedHundredths (Decimal.finite false c e).value (magnitude d f) n = min w n := by
      rw [hw]
      rfl
    have hkept : low = false := by simp [← hlow, value_finite, magnitude_nonneg]
    rw [hkept, less_hundredths hvalue] at h
    rw [hprojected]
    refine ⟨false, ?_, fun h => absurd h Bool.false_ne_true⟩
    by_cases hcut : n < w
    · rw [min_eq_right hcut.le]
      rw [decide_eq_true hcut] at h
      exact quantized_of_isHundredths hmaximum positive h
    · rw [min_eq_left (not_lt.mp hcut)]
      rw [decide_eq_false hcut] at h
      exact (pure_eq_ok.mp h).symm

lemma scale_projected (hscore : score.isFinite = true) (hpoints : points.isFinite = true)
    (some_points : 0 < points.value) (hmaximum : maximum.IsHundredths n) (positive : 0 < n)
    (h : scale (some score) (some points) maximum = .ok result) :
    ∃ t, result = .finite t (projectedHundredths score.value points.value n) (-2) ∧
      (t = true → projectedHundredths score.value points.value n = 0) := by
  obtain ⟨d, f, hd, rfl⟩ := finite_of_pos hpoints some_points
  cases score with
  | nan | infinite => cases hscore
  | finite s c e =>
    rcases Nat.eq_zero_or_pos c with rfl | hc
    · have hnothing : projectedHundredths (Decimal.finite s 0 e).value (Decimal.finite false d f).value n = 0 :=
        projectedHundredths_of_nonpos some_points (by simp [value_finite]) n
      simp only [scale, isZero, beq_self_eq_true, Bool.true_or, if_true, Except.ok.injEq] at h
      rw [hnothing]
      exact ⟨false, h.symm, fun h => absurd h Bool.false_ne_true⟩
    · have hscale : scale (some (.finite s c e)) (some (.finite false d f)) maximum =
          project (.finite s c e) (.finite false d f) maximum := by simp [scale, isZero, hc.ne', hd.ne']
      exact project_eq_ok hc hd hmaximum positive (hscale ▸ h)

lemma scale_isHundredths (hscore : score.isFinite = true) (hpoints : points.isFinite = true)
    (some_points : 0 < points.value) (hmaximum : maximum.IsHundredths n) (positive : 0 < n)
    (h : scale (some score) (some points) maximum = .ok result) :
    result.IsHundredths (projectedHundredths score.value points.value n) := by
  obtain ⟨t, rfl, hsign⟩ := scale_projected hscore hpoints some_points hmaximum positive h
  refine ⟨rfl, ?_⟩
  cases t with
  | false => exact magnitude_hundredths _
  | true => simp [hsign rfl, value_finite]

/-- A score between nothing and all the points is projected, and by less than a hundredth off. -/
lemma scale_near (hscore : score.isFinite = true) (hpoints : points.isFinite = true)
    (some_points : 0 < points.value) (hmaximum : maximum.IsHundredths n) (positive : 0 < n) (fits : n ≤ 999999)
    (low : 0 ≤ score.value) (high : score.value ≤ points.value) :
    ∃ result, scale (some score) (some points) maximum = .ok result ∧
      |result.value - score.value * maximum.value / points.value| < 1 / 100 := by
  rcases low.eq_or_lt with hzero | hpositive
  · refine ⟨.zeroHundredths, ?_, ?_⟩
    · have hnothing : score.isZero = true := IsHundredths.zero ⟨hscore, by rw [← hzero]; simp⟩
      simp [scale, hnothing]
    · rw [← hzero]
      norm_num [zeroHundredths, value_finite]
  · obtain ⟨c, e, hc, rfl⟩ := finite_of_pos hscore hpositive
    obtain ⟨d, f, hd, rfl⟩ := finite_of_pos hpoints some_points
    obtain ⟨m, g, hm, rfl, hvalue⟩ := hmaximum.pos positive
    have hn : (n : ℚ) ≤ 999999 := by exact_mod_cast fits
    have hc' := magnitude_pos hc e
    have hd' := magnitude_pos hd f
    change magnitude c e ≤ magnitude d f at high
    obtain ⟨k, h, k', h', -, hshare, -, hscaled, -, hproject⟩ := project_floor hc hd high hvalue fits
    have hclose := scaled_error (div_pos hc' hd').le (div_le_one_of_le₀ high hd'.le) (by positivity)
      (by linarith) hshare hscaled
    have hnonneg := magnitude_nonneg k' h'
    have hfloor := Nat.floor_le (a := magnitude k' h' * 100 + 1 / 2) (by positivity)
    have hceil := Nat.lt_floor_add_one (magnitude k' h' * 100 + 1 / 2)
    refine ⟨_, by simpa [scale, isZero, hc.ne', hd.ne'] using hproject, ?_⟩
    simp only [value_finite, if_neg Bool.false_ne_true]
    rw [magnitude_hundredths, hvalue, mul_div_right_comm]
    obtain ⟨hlow, hhigh⟩ := abs_le.mp hclose
    rw [abs_lt]
    constructor <;> linarith

/-- Scores of any size and sign are projected onto the scale of an item, whose maximum is at most 9999.99. Each
result is a number of hundredths between zero and the maximum; it is zero if the score is, or is negative, and
the maximum if the score is all the points or more. In between there is a result, and it is less than a
hundredth off. And the result of a higher score is no lower. -/
theorem projections_keep_ranking (hpoints : points.isFinite = true) (some_points : 0 < points.value)
    (hmaximum : maximum.IsHundredths n) (positive : 0 < n) (fits : n ≤ 999999)
    (hscore : score.isFinite = true) :
    (0 ≤ score.value → score.value ≤ points.value →
      ∃ result, scale (some score) (some points) maximum = .ok result ∧
        |result.value - score.value * maximum.value / points.value| < 1 / 100) ∧
    ∀ result, scale (some score) (some points) maximum = .ok result →
      (∃ k ≤ n, result.IsHundredths k) ∧
      (score.value ≤ 0 → result.value = 0) ∧
      (points.value ≤ score.value → result.value = maximum.value) ∧
      ∀ better better', better.isFinite = true → score.value ≤ better.value →
        scale (some better) (some points) maximum = .ok better' → result.value ≤ better'.value := by
  refine ⟨scale_near hscore hpoints some_points hmaximum positive fits, fun result h => ?_⟩
  have hresult := scale_isHundredths hscore hpoints some_points hmaximum positive h
  refine ⟨⟨_, min_le_right _ _, hresult⟩, fun hnothing => ?_, fun hall => ?_, ?_⟩
  · rw [hresult.2, projectedHundredths_of_nonpos some_points hnothing, Nat.cast_zero, zero_div]
  · rw [hresult.2, hmaximum.2, projectedHundredths_of_all some_points hall fits]
  · intro better better' hbetter hle h'
    have hbetter' := scale_isHundredths hbetter hpoints some_points hmaximum positive h'
    rw [hresult.2, hbetter'.2]
    gcongr
    exact projectedHundredths_mono some_points hle n

end Projections

lemma nextScore_scale : scale (some (.finite false 1301 (-2))) (some (.finite false 4800 (-2)))
    (.finite false 3000 (-2)) = .ok (.finite false 813 (-2)) := by
  decide +kernel

/-- The division of 13.00 by 48.00 is rounded down, and so is the projection; 13.01 is projected higher. -/
theorem projections_keep_ranking_of_lost_tie :
    scale (some (.finite false 1300 (-2))) (some (.finite false 4800 (-2))) (.finite false 3000 (-2)) =
        .ok (.finite false 812 (-2)) ∧
      scale (some (.finite false 1301 (-2))) (some (.finite false 4800 (-2))) (.finite false 3000 (-2)) =
        .ok (.finite false 813 (-2)) ∧
      (Decimal.finite false 812 (-2)).value ≤ (Decimal.finite false 813 (-2)).value := by
  have hpoints : 0 < (Decimal.finite false 4800 (-2)).value := magnitude_pos (by norm_num) _
  have hle : (Decimal.finite false 1300 (-2)).value ≤ (Decimal.finite false 1301 (-2)).value :=
    magnitude_le_magnitude.mpr (by norm_num)
  have hscore : (Decimal.finite false 1300 (-2)).isFinite = true := rfl
  obtain ⟨-, -, -, hranked⟩ := (projections_keep_ranking rfl hpoints (isHundredths_finite 3000) (by norm_num)
    (by norm_num) hscore).2 _ lostTie_scale
  exact ⟨lostTie_scale, nextScore_scale, hranked _ _ rfl hle nextScore_scale⟩

end Gradebook

end Assessment
