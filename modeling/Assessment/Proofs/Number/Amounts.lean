import Assessment.Amount
import Assessment.Proofs.Number.Doubles

/-!
# Storing decimals

A decimal that is a number is stored as an amount. A positive number of hundredths stays positive, and
one of less than `2 ^ 52` is read back as it was.
-/

namespace Assessment

open Number

namespace Number.Binary64

lemma ofRatio_ne_nan (s : Bool) (n d : Nat) : ofRatio s n d ≠ nan := by
  unfold ofRatio
  dsimp only
  split_ifs <;> simp

lemma ofScaled_ne_nan (s : Bool) (c : Nat) (e : Int) : ofScaled s c e ≠ nan := by
  unfold ofScaled
  dsimp only
  split_ifs
  · simp
  · simp
  · simp
  · exact ofRatio_ne_nan _ _ _

end Number.Binary64

namespace Amount

lemma ofDecimal?_isSome (s : Bool) (c : Nat) (e : Int) :
    (ofDecimal? (.finite s c e)).isSome := by
  have h := Binary64.ofScaled_ne_nan s c e
  change (ofBinary64? (Binary64.ofScaled s c e)).isSome
  cases hx : Binary64.ofScaled s c e with
  | nan => exact absurd hx h
  | finite | infinite => rfl

lemma ofScaled_hundredths {c : Nat} (hc : 0 < c) (hlt : c < 10 ^ 40) (s : Bool) :
    Binary64.ofScaled s c (-2) = Binary64.ofRatio s c 100 := by
  have hdigits : digitCount c ≤ 40 := (digitCount_le_iff (by omega)).mpr hlt
  have hpos := digitCount_pos c
  unfold Binary64.ofScaled Decimal.adjusted
  rw [if_neg hc.ne']
  dsimp only
  rw [if_neg (by omega), if_neg (by omega)]
  simp [tenPow]

lemma ofDecimal?_near {c : Nat} (hc : 0 < c) (hlt : c < 10 ^ 28) (s : Bool) :
    ∃ m e, ofDecimal? (.finite s c (-2)) = some ⟨.finite s m e⟩ ∧
      |Binary64.magnitude m e - c / 100| ≤ c / 100 * 2 ^ (-53 : Int) := by
  have hscaled : Binary64.ofScaled s c (-2) = Binary64.ofRatio s c 100 :=
    ofScaled_hundredths hc (hlt.trans (by norm_num)) s
  have hc' : (1 : ℚ) ≤ c := by exact_mod_cast hc
  have hlt' : (c : ℚ) < 10 ^ 28 := by exact_mod_cast hlt
  have hlow : (2 : ℚ) ^ (-1022 : Int) ≤ c / (100 : Nat) :=
    calc (2 : ℚ) ^ (-1022 : Int) ≤ 2 ^ (-7 : Int) := zpow_le_zpow_right₀ (by norm_num) (by norm_num)
      _ ≤ c / (100 : Nat) := by
          norm_num
          linarith
  have hhigh : (c : ℚ) / (100 : Nat) < 2 ^ (1022 : Int) :=
    calc (c : ℚ) / (100 : Nat) < 2 ^ (100 : Int) := by
          norm_num
          linarith
      _ ≤ 2 ^ (1022 : Int) := zpow_le_zpow_right₀ (by norm_num) (by norm_num)
  obtain ⟨m, e, hm, hratio, hnear⟩ := Binary64.ofRatio_near hc (by norm_num : 0 < 100) s hlow hhigh
  refine ⟨m, e, ?_, by simpa using hnear⟩
  change ofBinary64? (Binary64.ofScaled s c (-2)) = _
  rw [hscaled, hratio]
  simp [ofBinary64?, hm.ne']

lemma toDecimal_finite (s : Bool) (m : Nat) (e : Int) :
    toDecimal ⟨.finite s m e⟩ = .finite s (Rounding.halfEven.quotient
      ((Binary64.ratio m e).1 * tenPow 2) (Binary64.ratio m e).2) (-2) := rfl

lemma hundredths_ratio (m : Nat) (e : Int) :
    ((((Binary64.ratio m e).1 * tenPow 2 : Nat) : ℚ) / (Binary64.ratio m e).2) =
      Binary64.magnitude m e * 100 := by
  rw [← Binary64.ratio_eq, Nat.cast_mul, tenPow_cast, mul_div_right_comm]
  norm_num

lemma ratio_snd_pos (m : Nat) (e : Int) : 0 < (Binary64.ratio m e).2 := twoPow_pos _

lemma toDecimal_pos {c : Nat} (hc : 0 < c) (hlt : c < 10 ^ 28) {a : Amount}
    (h : ofDecimal? (.finite false c (-2)) = some a) :
    ∃ n, 0 < n ∧ a.toDecimal = .finite false n (-2) := by
  obtain ⟨m, e, hstored, hnear⟩ := ofDecimal?_near hc hlt false
  obtain rfl : ⟨.finite false m e⟩ = a := Option.some.inj (hstored.symm.trans h)
  have hc' : (1 : ℚ) ≤ c := by exact_mod_cast hc
  have herror := Rounding.halfEven.quotient_error (ratio_snd_pos m e)
    ((Binary64.ratio m e).1 * tenPow 2)
  rw [hundredths_ratio] at herror
  refine ⟨_, Nat.pos_of_ne_zero fun hzero => ?_, toDecimal_finite false m e⟩
  rw [hzero] at herror
  have hsmall : (2 : ℚ) ^ (-53 : Int) ≤ 1 / 4 := by norm_num
  rw [abs_le] at herror hnear
  push_cast at herror
  nlinarith

lemma toDecimal_ofDecimal? {c : Nat} (hc : 0 < c) (hlt : c < 2 ^ 52) (s : Bool) :
    (ofDecimal? (.finite s c (-2))).map toDecimal = some (.finite s c (-2)) := by
  obtain ⟨m, e, hstored, hnear⟩ := ofDecimal?_near hc (hlt.trans (by norm_num)) s
  have hlt' : (c : ℚ) < 2 ^ 52 := by exact_mod_cast hlt
  have hquotient : Rounding.halfEven.quotient ((Binary64.ratio m e).1 * tenPow 2)
      (Binary64.ratio m e).2 = c := by
    refine Rounding.quotient_eq (ratio_snd_pos m e) ?_
    rw [hundredths_ratio]
    have hscale : Binary64.magnitude m e * 100 - c = (Binary64.magnitude m e - c / 100) * 100 := by
      ring
    rw [hscale, abs_mul]
    calc |Binary64.magnitude m e - c / 100| * |(100 : ℚ)|
        ≤ c / 100 * 2 ^ (-53 : Int) * 100 := by
          rw [abs_of_pos (by norm_num : (0 : ℚ) < 100)]
          exact mul_le_mul_of_nonneg_right hnear (by norm_num)
      _ = c * 2 ^ (-53 : Int) := by ring
      _ < 2 ^ 52 * 2 ^ (-53 : Int) := mul_lt_mul_of_pos_right hlt' (by positivity)
      _ = 1 / 2 := by norm_num
  rw [hstored, Option.map_some, toDecimal_finite, hquotient]

lemma toDecimal_ofDecimal?_zero (s : Bool) (e : Int) :
    (ofDecimal? (.finite s 0 e)).map toDecimal = some Decimal.zeroHundredths := by
  have hstored : ofDecimal? (.finite s 0 e) = some ⟨.finite false 0 Binary64.minExponent⟩ := by
    simp [ofDecimal?, Binary64.ofDecimal, Binary64.ofScaled, ofBinary64?]
  have hquotient : Rounding.halfEven.quotient ((Binary64.ratio 0 Binary64.minExponent).1 * tenPow 2)
      (Binary64.ratio 0 Binary64.minExponent).2 = 0 := by
    refine Rounding.quotient_eq (ratio_snd_pos 0 _) ?_
    rw [hundredths_ratio]
    simp [Binary64.magnitude]
  rw [hstored, Option.map_some, toDecimal_finite, hquotient]
  rfl

/-- Fewer than `2 ^ 52` hundredths are stored as an amount that reads as hundredths of their value. -/
lemma stored_hundredths {c : Nat} (hlt : c < 2 ^ 52) (s : Bool) :
    ∃ a t n, ofDecimal? (.finite s c (-2)) = some a ∧ a.toDecimal = .finite t n (-2) ∧
      a.toDecimal.value = (Decimal.finite s c (-2)).value := by
  obtain ⟨a, ha⟩ := Option.isSome_iff_exists.mp (ofDecimal?_isSome s c (-2))
  rcases Nat.eq_zero_or_pos c with rfl | hpos
  · have hread := toDecimal_ofDecimal?_zero s (-2)
    rw [ha, Option.map_some, Option.some_inj] at hread
    refine ⟨a, false, 0, ha, hread, ?_⟩
    rw [hread]
    simp [Decimal.zeroHundredths, Decimal.value_finite]
  · have hread := toDecimal_ofDecimal? hpos hlt s
    rw [ha, Option.map_some, Option.some_inj] at hread
    exact ⟨a, s, c, ha, hread, congrArg _ hread⟩

end Amount

end Assessment
