import Assessment.Proofs.Number.Order

/-!
# What is read of a stored number

A positive number of any size is stored as a double, or as an infinity if it is too large for one. What is
read of it, in hundredths, is of the size that it was. Up to `2 ^ 46` doubles lie closer to each other than
hundredths, so that a number of hundredths is read as it was stored.
-/

namespace Assessment

open Number

namespace Number.Binary64

lemma ofRatio_large {n d : Nat} (hn : 0 < n) (hd : 0 < d) (s : Bool)
    (large : (2 : ℚ) ^ (1022 : Int) ≤ n / d) :
    ofRatio s n d = infinite s ∨
      ∃ m e, ofRatio s n d = finite s m e ∧ (2 : ℚ) ^ (970 : Int) ≤ magnitude m e := by
  obtain ⟨hlow, hhigh⟩ := leadingExponent_bounds hn hd
  have hk : (1022 : Int) < leadingExponent n d + 1 :=
    (zpow_lt_zpow_iff_right₀ (by norm_num : (1 : ℚ) < 2)).mp (large.trans_lt hhigh)
  unfold ofRatio
  rw [if_neg (by omega)]
  generalize leadingExponent n d = k at *
  have he : max minExponent (k - 52) = k - 52 := max_eq_right (by unfold minExponent; omega)
  have hunit : (0 : ℚ) < 2 ^ (k - 52) := by positivity
  have hone : 1 ≤ Rounding.halfEven.quotient (n * twoPow (-(k - 52)).toNat) (d * twoPow (k - 52).toNat) := by
    have hscaled : ((1 : Nat) : ℚ) ≤
        ((n * twoPow (-(k - 52)).toNat : Nat) : ℚ) / (d * twoPow (k - 52).toNat : Nat) := by
      rw [scaled_ratio, Nat.cast_one, one_le_div hunit]
      exact (zpow_le_zpow_right₀ (by norm_num) (by omega)).trans hlow
    have hnearest := Rounding.halfEven.quotient_nearest (n := n * twoPow (-(k - 52)).toNat)
      (Nat.mul_pos hd (twoPow_pos (k - 52).toNat))
    exact_mod_cast hnearest.le_of_ge ⟨1, rfl⟩ hscaled
  simp only [he]
  generalize Rounding.halfEven.quotient _ _ = q at *
  have hmagnitude (m : Nat) (hm : 1 ≤ m) (e : Int) (h : k - 52 ≤ e) :
      (2 : ℚ) ^ (970 : Int) ≤ magnitude m e :=
    calc (2 : ℚ) ^ (970 : Int) ≤ 1 * 2 ^ e := by
          rw [one_mul]
          exact zpow_le_zpow_right₀ (by norm_num) (by omega)
      _ ≤ magnitude m e := mul_le_mul_of_nonneg_right (by exact_mod_cast hm) (by positivity)
  by_cases hcarry : q = twoPow 53
  · simp only [if_pos hcarry]
    split_ifs
    · exact .inl rfl
    · exact .inr ⟨_, _, rfl, hmagnitude _ (twoPow_pos 52) _ (by omega)⟩
  · simp only [if_neg hcarry]
    split_ifs
    · exact .inl rfl
    · exact .inr ⟨_, _, rfl, hmagnitude _ hone _ le_rfl⟩

lemma ofScaled_eq {c : Nat} {e : Int} (low : 1 / 100 ≤ Decimal.magnitude c e) (s : Bool) :
    (2 : ℚ) ^ (1022 : Int) ≤ Decimal.magnitude c e ∧ ofScaled s c e = infinite s ∨
      0 < c ∧ ofScaled s c e = ofRatio s (c * tenPow e.toNat) (tenPow (-e).toNat) := by
  have hc : 0 < c := by
    refine Nat.pos_of_ne_zero fun hzero => ?_
    rw [hzero, Decimal.magnitude_zero] at low
    norm_num at low
  have hadjusted : -3 < Decimal.adjusted c e := by
    have hlow : (10 : ℚ) ^ (-2 : Int) < 10 ^ (Decimal.adjusted c e + 1) :=
      (le_of_eq (by norm_num)).trans_lt (low.trans_lt (Decimal.magnitude_bounds hc e).2)
    have := (zpow_lt_zpow_iff_right₀ (by norm_num : (1 : ℚ) < 10)).mp hlow
    omega
  unfold ofScaled
  simp only [if_neg hc.ne', if_neg (by omega : ¬Decimal.adjusted c e < -400)]
  split_ifs with hhigh
  · refine .inl ⟨le_trans ?_ (Decimal.magnitude_bounds hc e).1, rfl⟩
    calc (2 : ℚ) ^ (1022 : Int) ≤ 2 ^ (3 * 400 : Int) := zpow_le_zpow_right₀ (by norm_num) (by norm_num)
      _ = 8 ^ 400 := by
          rw [zpow_mul]
          norm_num [-Nat.reducePow]
      _ ≤ 10 ^ (400 : Int) := by exact_mod_cast pow_le_pow_left₀ (by norm_num) (by norm_num) 400
      _ ≤ 10 ^ Decimal.adjusted c e := zpow_le_zpow_right₀ (by norm_num) hhigh.le
  · exact .inr ⟨hc, rfl⟩

end Number.Binary64

namespace Amount

open Binary64

variable {c : Nat} {e : Int}

lemma ofDecimal?_of_ofScaled {m : Nat} {f : Int} (h : Binary64.ofScaled false c e = .finite false m f) :
    ofDecimal? (.finite false c e) = some ⟨.finite false m f⟩ := by
  change ofBinary64? (Binary64.ofScaled false c e) = _
  rw [h]
  rfl

lemma read_near (low : 1 / 100 ≤ Decimal.magnitude c e)
    (high : Decimal.magnitude c e < 2 ^ (1022 : Int)) :
    ∃ a n, ofDecimal? (.finite false c e) = some a ∧ a.toDecimal = .finite false n (-2) ∧
      49 * Decimal.magnitude c e ≤ n ∧ n ≤ 160 * Decimal.magnitude c e := by
  rcases ofScaled_eq low false with ⟨hlarge, -⟩ | ⟨hc, hscaled⟩
  · exact absurd high (not_lt.mpr hlarge)
  · have hn : 0 < c * tenPow e.toNat := Nat.mul_pos hc (Nat.pow_pos (by omega))
    have hd : 0 < tenPow (-e).toNat := Nat.pow_pos (by omega)
    have hratio := ofRatio_near hn hd false
    rw [scaled_fraction] at hratio
    have hnormal : (2 : ℚ) ^ (-1022 : Int) ≤ 1 / 100 :=
      calc (2 : ℚ) ^ (-1022 : Int) ≤ 2 ^ (-7 : Int) := zpow_le_zpow_right₀ (by norm_num) (by norm_num)
        _ ≤ 1 / 100 := by norm_num
    obtain ⟨m, f, -, hstored, hnear⟩ := hratio (hnormal.trans low) high
    refine ⟨_, hundredths m f, ofDecimal?_of_ofScaled (hscaled.trans hstored), toDecimal_hundredths m f, ?_⟩
    have hread := abs_le.mp (hundredths_error m f)
    have hpart : Decimal.magnitude c e * 2 ^ (-53 : Int) ≤ Decimal.magnitude c e * (1 / 1000) :=
      mul_le_mul_of_nonneg_left (by norm_num) (Decimal.magnitude_nonneg c e)
    have hnear' := abs_le.mp (hnear.trans hpart)
    constructor <;> linarith

lemma read_large (low : 1 / 100 ≤ Decimal.magnitude c e) :
    ∃ a, ofDecimal? (.finite false c e) = some a ∧ (a.toDecimal = .infinite false ∨
      ∃ n : Nat, a.toDecimal = .finite false n (-2) ∧
        (49 * Decimal.magnitude c e ≤ n ∨ (2 : ℚ) ^ (970 : Int) ≤ n)) := by
  by_cases high : Decimal.magnitude c e < 2 ^ (1022 : Int)
  · obtain ⟨a, n, ha, hread, hlow, -⟩ := read_near low high
    exact ⟨a, ha, .inr ⟨n, hread, .inl hlow⟩⟩
  · have hinfinite (h : Binary64.ofScaled false c e = .infinite false) :
        ofDecimal? (.finite false c e) = some ⟨.infinite false⟩ := by
      change ofBinary64? (Binary64.ofScaled false c e) = _
      rw [h]
      rfl
    rcases ofScaled_eq low false with ⟨-, hscaled⟩ | ⟨hc, hscaled⟩
    · exact ⟨_, hinfinite hscaled, .inl rfl⟩
    · have hn : 0 < c * tenPow e.toNat := Nat.mul_pos hc (Nat.pow_pos (by omega))
      have hd : 0 < tenPow (-e).toNat := Nat.pow_pos (by omega)
      have hlarge := ofRatio_large hn hd false
      rw [scaled_fraction] at hlarge
      rcases hlarge (not_lt.mp high) with hstored | ⟨m, f, hstored, hmagnitude⟩
      · exact ⟨_, hinfinite (hscaled.trans hstored), .inl rfl⟩
      · refine ⟨_, ofDecimal?_of_ofScaled (hscaled.trans hstored), .inr ⟨hundredths m f, rfl, .inr ?_⟩⟩
        have hread := (abs_le.mp (hundredths_error m f)).1
        have hpow : (1 : ℚ) ≤ 2 ^ (970 : Int) := one_le_zpow₀ (by norm_num) (by norm_num)
        generalize (2 : ℚ) ^ (970 : Int) = large at *
        linarith

/-- What is read of a stored amount is the number that was accepted, as long as that is at most `2 ^ 46`. Of a
larger one it is off by the way to the nearest double and from there to the nearest hundredth. -/
structure ReadsBack (accepted : Decimal) (stored : Amount) : Prop where
  form : ∃ n, stored.toDecimal = .finite false n (-2)
  exact : |accepted.value| ≤ 2 ^ 46 → stored.toDecimal.value = accepted.value
  near : |stored.toDecimal.value - accepted.value| ≤ |accepted.value| * 2 ^ (-53 : Int) + 1 / 200

lemma ReadsBack.of_value {d : Decimal} {a : Amount} {n : Nat} (h : a.toDecimal = .finite false n (-2))
    (value : a.toDecimal.value = d.value) : ReadsBack d a where
  form := ⟨n, h⟩
  exact _ := value
  near := by
    rw [value, sub_self, abs_zero]
    positivity

section Hundredths

variable {c m : Nat} {e : Int}

lemma exists_double_near (small : (c / 100 : ℚ) ≤ 2 ^ 46) : ∃ x, IsDouble x ∧ |x - c / 100| ≤ 1 / 256 := by
  have herror := Rounding.halfEven.quotient_error (by norm_num : 0 < 100) (c * 128)
  generalize Rounding.halfEven.quotient (c * 128) 100 = q at herror
  push_cast at herror
  have hscaled : (magnitude q (-7) : ℚ) - c / 100 = (q - c * 128 / 100) / 128 := by
    unfold magnitude
    norm_num
    ring
  have hq : q ≤ twoPow 53 := by
    have hlt : (q : ℚ) < (twoPow 53 + 1 : Nat) := by
      have := (abs_le.mp herror).2
      push_cast [twoPow_cast]
      linarith
    exact Nat.lt_succ_iff.mp (by exact_mod_cast hlt)
  refine ⟨magnitude q (-7), ⟨q, -7, hq, by unfold minExponent; omega, rfl⟩, ?_⟩
  rw [hscaled, abs_div, abs_of_pos (by norm_num : (0 : ℚ) < 128)]
  linarith

lemma hundredths_of_nearest (h : Nearest IsDouble (magnitude m e) (c / 100)) (small : (c / 100 : ℚ) ≤ 2 ^ 46) :
    hundredths m e = c := by
  obtain ⟨x, hx, hnear⟩ := exists_double_near small
  have hscaled : magnitude m e * 100 - c = (magnitude m e - c / 100) * 100 := by ring
  have hleast := (h.least x hx).trans hnear
  refine hundredths_eq ?_
  rw [hscaled, abs_mul, abs_of_pos (by norm_num : (0 : ℚ) < 100)]
  linarith

lemma hundredths_near (h : |magnitude m e - c / 100| ≤ c / 100 * 2 ^ (-53 : Int)) :
    |(hundredths m e / 100 : ℚ) - c / 100| ≤ c / 100 * 2 ^ (-53 : Int) + 1 / 200 := by
  have herror := abs_le.mp (hundredths_error m e)
  have hnear := abs_le.mp h
  rw [abs_le]
  constructor <;> linarith

/-- Hundredths of up to 28 digits that are not negative are stored, and read back. -/
lemma exists_readsBack {s : Bool} (unsigned : s = true → c = 0) (hlt : c < 10 ^ 28) :
    ∃ a, ofDecimal? (.finite s c (-2)) = some a ∧ ReadsBack (.finite s c (-2)) a := by
  have hvalue : (Decimal.finite s c (-2)).value = c / 100 := by
    cases s with
    | false => exact Decimal.magnitude_hundredths c
    | true => simp [unsigned rfl, Decimal.value_finite]
  obtain ⟨m, e, hstored, hnearest⟩ := ofDecimal?_nearest (hlt.trans (by norm_num))
  have hread : (toDecimal ⟨.finite false m e⟩).value = hundredths m e / 100 := by
    rw [toDecimal_hundredths]
    exact Decimal.magnitude_hundredths _
  refine ⟨_, (ofDecimal?_unsigned unsigned _).trans hstored, ⟨_, toDecimal_hundredths m e⟩, ?_, ?_⟩
  · intro small
    rw [hvalue, abs_of_nonneg (by positivity)] at small
    rw [hread, hvalue, hundredths_of_nearest hnearest small]
  · rw [hread, hvalue, abs_of_nonneg (by positivity : (0 : ℚ) ≤ c / 100)]
    rcases Nat.eq_zero_or_pos c with rfl | hpos
    · rw [hundredths_of_nearest hnearest (by norm_num)]
      norm_num
    · obtain ⟨m', e', hstored', hnear⟩ := ofDecimal?_near hpos hlt false
      obtain ⟨rfl, rfl⟩ : m = m' ∧ e = e' := by simpa [hstored] using hstored'
      exact hundredths_near hnear

lemma readsBack_of_pos {d : Decimal} (h : ∃ n, 0 < n ∧ n < 10 ^ 28 ∧ d = .finite false n (-2)) :
    ReadsBack d ((ofDecimal? d).getD .zero) := by
  obtain ⟨n, -, hlt, rfl⟩ := h
  obtain ⟨a, ha, hread⟩ := exists_readsBack (s := false) (by simp) hlt
  rw [ha]
  exact hread

end Hundredths

end Amount

end Assessment
