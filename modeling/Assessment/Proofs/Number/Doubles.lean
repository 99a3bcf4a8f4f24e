import Assessment.Number.Binary64
import Assessment.Proofs.Number.Values

/-!
# How near a double is

A quotient is rounded to a neighbour, so a double in the normal range is off by one part in `2 ^ 53` at
most.
-/

namespace Assessment.Number

lemma Rounding.quotient_error (mode : Rounding) {d : Nat} (hd : 0 < d) (n : Nat) :
    |(mode.quotient n d : ℚ) - n / d| ≤ 1 / 2 := by
  have hd' : (0 : ℚ) < d := by exact_mod_cast hd
  have hn : (n : ℚ) = d * (n / d : Nat) + (n % d : Nat) := by exact_mod_cast (Nat.div_add_mod n d).symm
  have hquot : (n : ℚ) / d = (n / d : Nat) + (n % d : Nat) / d := by
    rw [div_eq_iff hd'.ne', add_mul, div_mul_cancel₀ _ hd'.ne', mul_comm]
    exact hn
  have hpos : (0 : ℚ) ≤ (n % d : Nat) / d := by positivity
  rw [hquot]
  unfold Rounding.quotient
  dsimp only
  split_ifs with hlow hhigh
  · have hr : ((n % d : Nat) : ℚ) / d < 1 / 2 := by
      rw [div_lt_div_iff₀ hd' (by norm_num)]
      exact_mod_cast (by omega : n % d * 2 < 1 * d)
    rw [abs_le]
    constructor <;> linarith
  · have hr : 1 / 2 < ((n % d : Nat) : ℚ) / d := by
      rw [div_lt_div_iff₀ (by norm_num) hd']
      exact_mod_cast (by omega : 1 * d < n % d * 2)
    have hr' : ((n % d : Nat) : ℚ) / d < 1 := by
      rw [div_lt_one hd']
      exact_mod_cast Nat.mod_lt n hd
    push_cast
    rw [abs_le]
    constructor <;> linarith
  · have hr : ((n % d : Nat) : ℚ) / d = 1 / 2 := by
      rw [div_eq_div_iff hd'.ne' (by norm_num)]
      exact_mod_cast (by omega : n % d * 2 = 1 * d)
    rw [hr]
    cases mode with
    | halfUp =>
      push_cast
      rw [abs_le]
      constructor <;> linarith
    | halfEven =>
      have hparity : ((n / d % 2 : Nat) : ℚ) ≤ 1 := by
        exact_mod_cast (by omega : n / d % 2 ≤ 1)
      have hparity' : (0 : ℚ) ≤ ((n / d % 2 : Nat) : ℚ) := by positivity
      push_cast at *
      rw [abs_le]
      constructor <;> linarith

lemma Rounding.quotient_eq {mode : Rounding} {n d k : Nat} (hd : 0 < d)
    (h : |(n : ℚ) / d - k| < 1 / 2) : mode.quotient n d = k := by
  have herror := mode.quotient_error hd n
  rw [abs_le] at herror
  rw [abs_lt] at h
  have hlow : (mode.quotient n d : ℚ) < k + 1 := by linarith
  have hhigh : (k : ℚ) < mode.quotient n d + 1 := by linarith
  have hlow' : mode.quotient n d < k + 1 := by exact_mod_cast hlow
  have hhigh' : k < mode.quotient n d + 1 := by exact_mod_cast hhigh
  omega

lemma twoPow_cast (k : Nat) : (twoPow k : ℚ) = 2 ^ k := by simp [twoPow]

lemma twoPow_pos (k : Nat) : 0 < twoPow k := Nat.pow_pos (by omega)

lemma twoPow_toNat (e : Int) : (twoPow e.toNat : ℚ) = 2 ^ e * twoPow (-e).toNat := by
  rw [twoPow_cast, twoPow_cast, ← zpow_natCast, ← zpow_natCast, ← zpow_add₀ (by norm_num)]
  congr 1
  omega

namespace Binary64

/-- The value of a mantissa with an exponent. -/
def magnitude (m : Nat) (e : Int) : ℚ := m * 2 ^ e

lemma ratio_eq (m : Nat) (e : Int) : ((ratio m e).1 : ℚ) / (ratio m e).2 = magnitude m e := by
  have hpos : (0 : ℚ) < twoPow (-e).toNat := by exact_mod_cast twoPow_pos _
  change ((m * twoPow e.toNat : Nat) : ℚ) / (twoPow (-e).toNat : Nat) = m * 2 ^ e
  rw [Nat.cast_mul, twoPow_toNat, ← mul_assoc, mul_div_cancel_right₀ _ hpos.ne']

lemma log2_bounds {n : Nat} (hn : 0 < n) :
    (2 : ℚ) ^ (Nat.log2 n : Int) ≤ n ∧ (n : ℚ) < 2 ^ ((Nat.log2 n : Int) + 1) := by
  have hlow : 2 ^ Nat.log2 n ≤ n := Nat.log2_self_le hn.ne'
  have hhigh : n < 2 ^ (Nat.log2 n + 1) := Nat.lt_log2_self
  constructor
  · rw [zpow_natCast]
    exact_mod_cast hlow
  · exact_mod_cast hhigh

lemma scaled_ratio (n d : Nat) (e : Int) :
    ((n * twoPow (-e).toNat : Nat) : ℚ) / (d * twoPow e.toNat : Nat) = n / d / 2 ^ e := by
  have hneg : (0 : ℚ) < twoPow (-e).toNat := by exact_mod_cast twoPow_pos _
  rw [Nat.cast_mul, Nat.cast_mul, twoPow_toNat e, ← mul_assoc, mul_div_mul_right _ _ hneg.ne', div_div]

lemma leadingExponent_bounds {n d : Nat} (hn : 0 < n) (hd : 0 < d) :
    (2 : ℚ) ^ leadingExponent n d ≤ n / d ∧ (n : ℚ) / d < 2 ^ (leadingExponent n d + 1) := by
  have hd' : (0 : ℚ) < d := by exact_mod_cast hd
  obtain ⟨hnlow, hnhigh⟩ := log2_bounds hn
  obtain ⟨hdlow, hdhigh⟩ := log2_bounds hd
  have htest (k : Int) : d * twoPow k.toNat ≤ n * twoPow (-k).toNat ↔ (2 : ℚ) ^ k ≤ n / d := by
    have hpos : (0 : ℚ) < twoPow (-k).toNat := by exact_mod_cast twoPow_pos _
    rw [← Nat.cast_le (α := ℚ), Nat.cast_mul, Nat.cast_mul, twoPow_toNat, ← mul_assoc,
      mul_le_mul_iff_left₀ hpos, le_div_iff₀ hd', mul_comm]
  unfold leadingExponent
  dsimp only
  have hlow : (2 : ℚ) ^ ((Nat.log2 n : Int) - Nat.log2 d - 1) ≤ n / d := by
    rw [le_div_iff₀ hd']
    calc (2 : ℚ) ^ ((Nat.log2 n : Int) - Nat.log2 d - 1) * d
        ≤ 2 ^ ((Nat.log2 n : Int) - Nat.log2 d - 1) * 2 ^ ((Nat.log2 d : Int) + 1) :=
          mul_le_mul_of_nonneg_left hdhigh.le (by positivity)
      _ = 2 ^ (Nat.log2 n : Int) := by
          rw [← zpow_add₀ (by norm_num)]
          congr 1
          omega
      _ ≤ n := hnlow
  have hhigh : (n : ℚ) / d < 2 ^ ((Nat.log2 n : Int) - Nat.log2 d + 1) := by
    rw [div_lt_iff₀ hd']
    calc (n : ℚ) < 2 ^ ((Nat.log2 n : Int) + 1) := hnhigh
      _ = 2 ^ ((Nat.log2 n : Int) - Nat.log2 d + 1) * 2 ^ (Nat.log2 d : Int) := by
          rw [← zpow_add₀ (by norm_num)]
          congr 1
          omega
      _ ≤ 2 ^ ((Nat.log2 n : Int) - Nat.log2 d + 1) * d :=
          mul_le_mul_of_nonneg_left hdlow (by positivity)
  split_ifs with h
  · exact ⟨(htest _).mp h, hhigh⟩
  · rw [htest, not_le] at h
    exact ⟨hlow, by simpa using h⟩

lemma magnitude_carry (e : Int) : magnitude (twoPow 52) (e + 1) = magnitude (twoPow 53) e := by
  unfold magnitude
  rw [twoPow_cast, twoPow_cast, zpow_add₀ (by norm_num)]
  ring

lemma magnitude_pos {m : Nat} (hm : 0 < m) (e : Int) : 0 < magnitude m e := by
  unfold magnitude
  positivity

lemma abs_magnitude_sub (m : Nat) (e : Int) (r : ℚ) :
    |magnitude m e - r| = |m - r / 2 ^ e| * 2 ^ e := by
  have hpow : (0 : ℚ) < 2 ^ e := by positivity
  have hfactor : magnitude m e - r = (m - r / 2 ^ e) * 2 ^ e := by
    unfold magnitude
    field_simp
  rw [hfactor, abs_mul, abs_of_pos hpow]

lemma ofRatio_carried {n d : Nat} (hn : 0 < n) (hd : 0 < d) (s : Bool)
    (high : leadingExponent n d < 1022) :
    let e := max minExponent (leadingExponent n d - 52)
    let q := Rounding.halfEven.quotient (n * twoPow (-e).toNat) (d * twoPow e.toNat)
    ∃ m f, ofRatio s n d = finite s m f ∧ magnitude m f = magnitude q e ∧ minExponent ≤ f ∧
      (q ≤ twoPow 53 → m ≤ twoPow 53) := by
  intro e q
  have he : max minExponent (leadingExponent n d - 52) = e := rfl
  have hq : Rounding.halfEven.quotient (n * twoPow (-e).toNat) (d * twoPow e.toNat) = q := rfl
  have hlow : minExponent ≤ e := le_max_left _ _
  have hhigh : e ≤ 970 := max_le (by unfold minExponent; omega) (by omega)
  unfold ofRatio
  rw [if_neg (by omega)]
  by_cases hcarry : q = twoPow 53
  · refine ⟨twoPow 52, e + 1, ?_, ?_, by omega, fun _ => by decide⟩
    · simp only [he, hq, if_pos hcarry]
      rw [if_neg (by unfold maxExponent; omega)]
    · rw [magnitude_carry, ← hcarry]
  · refine ⟨q, e, ?_, rfl, hlow, id⟩
    simp only [he, hq, if_neg hcarry]
    rw [if_neg (by unfold maxExponent; omega)]

/-- The double that is nearest to a quotient in the normal range. -/
lemma ofRatio_near {n d : Nat} (hn : 0 < n) (hd : 0 < d) (s : Bool)
    (low : (2 : ℚ) ^ (-1022 : Int) ≤ n / d) (high : (n : ℚ) / d < 2 ^ (1022 : Int)) :
    ∃ m e, 0 < m ∧ ofRatio s n d = finite s m e ∧
      |magnitude m e - n / d| ≤ n / d * 2 ^ (-53 : Int) := by
  obtain ⟨hlow, hhigh⟩ := leadingExponent_bounds hn hd
  have hkmin : -1022 < leadingExponent n d + 1 :=
    (zpow_lt_zpow_iff_right₀ (by norm_num : (1 : ℚ) < 2)).mp (low.trans_lt hhigh)
  have hkmax : leadingExponent n d < 1022 :=
    (zpow_lt_zpow_iff_right₀ (by norm_num : (1 : ℚ) < 2)).mp (hlow.trans_lt high)
  obtain ⟨m, f, hratio, hcarried, -⟩ := ofRatio_carried hn hd s hkmax
  have he : max minExponent (leadingExponent n d - 52) = leadingExponent n d - 52 :=
    max_eq_right (by unfold minExponent; omega)
  rw [he] at hcarried
  set k := leadingExponent n d with hk
  set e := k - 52 with hedef
  have hpow : (0 : ℚ) < 2 ^ e := by positivity
  have hd' : 0 < d * twoPow e.toNat := Nat.mul_pos hd (twoPow_pos _)
  set q := Rounding.halfEven.quotient (n * twoPow (-e).toNat) (d * twoPow e.toNat) with hq
  -- The scaled quotient is the mantissa before rounding.
  have herror := Rounding.halfEven.quotient_error hd' (n * twoPow (-e).toNat)
  rw [scaled_ratio, ← hq] at herror
  have hqe : |magnitude q e - n / d| ≤ n / d * 2 ^ (-53 : Int) := by
    rw [abs_magnitude_sub]
    calc |(q : ℚ) - n / d / 2 ^ e| * 2 ^ e ≤ 1 / 2 * 2 ^ e := mul_le_mul_of_nonneg_right herror hpow.le
      _ = 2 ^ k * 2 ^ (-53 : Int) := by
          rw [← zpow_add₀ (by norm_num), show k + -53 = e - 1 by omega, zpow_sub_one₀ (by norm_num)]
          ring
      _ ≤ n / d * 2 ^ (-53 : Int) := mul_le_mul_of_nonneg_right hlow (by positivity)
  have hqpos : 0 < q := by
    have hmantissa : (2 : ℚ) ^ (52 : Int) ≤ n / d / 2 ^ e := by
      rw [le_div_iff₀ hpow, ← zpow_add₀ (by norm_num), show (52 : Int) + e = k by omega]
      exact hlow
    have : (0 : ℚ) < q := by
      rw [abs_le] at herror
      norm_num at hmantissa
      linarith
    exact_mod_cast this
  refine ⟨m, f, Nat.pos_of_ne_zero fun hzero => ?_, hratio, hcarried ▸ hqe⟩
  have hpositive := magnitude_pos hqpos e
  rw [← hcarried, hzero] at hpositive
  simp [magnitude] at hpositive

end Binary64

end Assessment.Number
