import Assessment.Proofs.Number.Doubles

/-!
# Rounding to the nearest

A quotient is rounded to the natural number that is nearest to it, and a positive fraction to the
nearest double. Whatever becomes of ties, rounding to the nearest does not change the order of two
numbers.
-/

namespace Assessment.Number

/-- A number of a kind that no number of its kind is nearer to a given one than. -/
structure Nearest (R : ℚ → Prop) (x q : ℚ) : Prop where
  kind : R x
  least : ∀ y, R y → |x - q| ≤ |y - q|

section Order

variable {R : ℚ → Prop} {x y p q : ℚ}

lemma middle_le (h : |x - q| ≤ |y - q|) (hyx : y < x) : x + y ≤ 2 * q := by
  rcases abs_cases (x - q) with ⟨hx, hx'⟩ | ⟨hx, hx'⟩ <;>
    rcases abs_cases (y - q) with ⟨hy, hy'⟩ | ⟨hy, hy'⟩ <;> linarith

lemma le_middle (h : |x - q| ≤ |y - q|) (hxy : x < y) : 2 * q ≤ x + y := by
  rcases abs_cases (x - q) with ⟨hx, hx'⟩ | ⟨hx, hx'⟩ <;>
    rcases abs_cases (y - q) with ⟨hy, hy'⟩ | ⟨hy, hy'⟩ <;> linarith

lemma Nearest.mono (hx : Nearest R x p) (hy : Nearest R y q) (h : p < q) : x ≤ y := by
  by_contra hlt
  have hlow := middle_le (hx.least y hy.kind) (not_le.mp hlt)
  have hhigh := le_middle (hy.least x hx.kind) (not_le.mp hlt)
  linarith

lemma Nearest.le_of_le (hx : Nearest R x q) (hy : R y) (h : q ≤ y) : x ≤ y := by
  by_contra hlt
  have := middle_le (hx.least y hy) (not_le.mp hlt)
  linarith

lemma Nearest.le_of_ge (hx : Nearest R x q) (hy : R y) (h : y ≤ q) : y ≤ x := by
  by_contra hlt
  have := le_middle (hx.least y hy) (not_le.mp hlt)
  linarith

end Order

namespace Rounding

variable {mode : Rounding} {n d n' d' : Nat}

lemma quotient_nearest (hd : 0 < d) :
    Nearest (fun x => ∃ k : Nat, x = k) (mode.quotient n d) (n / d) := by
  refine ⟨⟨_, rfl⟩, ?_⟩
  rintro _ ⟨k, rfl⟩
  have herror := mode.quotient_error hd n
  by_cases hk : k = mode.quotient n d
  · rw [hk]
  · -- Two numbers are at least one apart, and half of that is the most that rounding moves a quotient.
    have hapart : (1 : ℚ) ≤ |(k : ℚ) - mode.quotient n d| := by
      have : (1 : Int) ≤ |(k : Int) - mode.quotient n d| := Int.one_le_abs (by omega)
      exact_mod_cast this
    have htriangle := abs_sub_le (k : ℚ) (n / d) (mode.quotient n d)
    rw [abs_sub_comm ((n : ℚ) / d)] at htriangle
    linarith

lemma quotient_scale {k : Nat} (hk : 0 < k) : mode.quotient (k * n) (k * d) = mode.quotient n d := by
  unfold quotient
  rw [Nat.mul_div_mul_left _ _ hk, Nat.mul_mod_mul_left]
  have hlow : 2 * (k * (n % d)) < k * d ↔ 2 * (n % d) < d := by
    rw [Nat.mul_left_comm, Nat.mul_lt_mul_left hk]
  have hhigh : k * d < 2 * (k * (n % d)) ↔ d < 2 * (n % d) := by
    rw [Nat.mul_left_comm, Nat.mul_lt_mul_left hk]
  simp only [hlow, hhigh]

lemma quotient_congr (hd : 0 < d) (hd' : 0 < d') (h : (n : ℚ) / d = n' / d') :
    mode.quotient n d = mode.quotient n' d' := by
  have hcross : d' * n = d * n' := by
    rw [div_eq_div_iff (by exact_mod_cast hd.ne') (by exact_mod_cast hd'.ne')] at h
    have : n * d' = n' * d := by exact_mod_cast h
    linarith
  rw [← quotient_scale hd', ← quotient_scale (n := n') hd, hcross, Nat.mul_comm d' d]

lemma quotient_mono (hd : 0 < d) (hd' : 0 < d') (h : (n : ℚ) / d ≤ n' / d') :
    mode.quotient n d ≤ mode.quotient n' d' := by
  rcases h.eq_or_lt with h | h
  · exact (quotient_congr hd hd' h).le
  · exact_mod_cast (mode.quotient_nearest hd).mono (mode.quotient_nearest hd') h

variable {x y : ℚ}

/-- The natural number that is nearest to a number; zero for what is negative. -/
def nearest (mode : Rounding) (x : ℚ) : Nat := mode.quotient x.num.toNat x.den

lemma toNat_num_div_den (hx : 0 ≤ x) : ((x.num.toNat : Nat) : ℚ) / x.den = x := by
  have hnum : ((x.num.toNat : Nat) : Int) = x.num := Int.toNat_of_nonneg (Rat.num_nonneg.mpr hx)
  rw [← Int.cast_natCast, hnum]
  exact Rat.num_div_den x

lemma nearest_div (n : Nat) {d : Nat} (hd : 0 < d) : mode.nearest (n / d) = mode.quotient n d :=
  quotient_congr (Rat.den_pos _) hd (toNat_num_div_den (by positivity))

lemma nearest_natCast (k : Nat) : mode.nearest k = k := by
  have hone : mode.nearest ((k : ℚ) / (1 : Nat)) = mode.quotient k 1 := nearest_div k Nat.one_pos
  rw [Nat.cast_one, div_one] at hone
  rw [hone]
  exact quotient_eq Nat.one_pos (by norm_num)

lemma nearest_of_nonpos (hx : x ≤ 0) : mode.nearest x = 0 := by
  have hnum : x.num.toNat = 0 := Int.toNat_of_nonpos (Rat.num_nonpos.mpr hx)
  unfold nearest
  rw [hnum]
  exact quotient_eq (Rat.den_pos x) (by norm_num)

lemma nearest_mono (h : x ≤ y) : mode.nearest x ≤ mode.nearest y := by
  rcases le_total x 0 with hx | hx
  · rw [nearest_of_nonpos hx]
    exact Nat.zero_le _
  · refine quotient_mono (Rat.den_pos x) (Rat.den_pos y) ?_
    rwa [toNat_num_div_den hx, toNat_num_div_den (hx.trans h)]

lemma quotient_of_small {D t w : Nat} (h : 2 * w < D) : mode.quotient (D * t + w) D = t := by
  unfold quotient
  rw [Nat.mul_add_div (by omega), Nat.mul_add_mod, Nat.div_eq_of_lt (by omega), Nat.mod_eq_of_lt (by omega)]
  simp [h]

lemma quotient_of_large {D t w : Nat} (h : D < 2 * w) (hw : w < D) :
    mode.quotient (D * t + w) D = t + 1 := by
  unfold quotient
  rw [Nat.mul_add_div (by omega), Nat.mul_add_mod, Nat.div_eq_of_lt hw, Nat.mod_eq_of_lt hw]
  simp [h, h.not_gt]

end Rounding

namespace Binary64

/-- The numbers that are not negative and are doubles. -/
def IsDouble (x : ℚ) : Prop := ∃ m e, m ≤ twoPow 53 ∧ minExponent ≤ e ∧ x = magnitude m e

lemma magnitude_shift (m : Nat) {e f : Int} (h : e ≤ f) :
    magnitude m f = magnitude (m * twoPow (f - e).toNat) e := by
  unfold magnitude
  rw [Nat.cast_mul, twoPow_cast, mul_assoc, ← zpow_natCast, ← zpow_add₀ (by norm_num)]
  congr 2
  omega

/-- A positive fraction below the largest doubles is rounded to the double that is nearest to it. -/
lemma ofRatio_nearest {n d : Nat} (hn : 0 < n) (hd : 0 < d) (s : Bool)
    (high : (n : ℚ) / d < 2 ^ (1022 : Int)) :
    ∃ m e, ofRatio s n d = finite s m e ∧ Nearest IsDouble (magnitude m e) (n / d) := by
  obtain ⟨hlow, hhigh⟩ := leadingExponent_bounds hn hd
  have hk : leadingExponent n d < 1022 :=
    (zpow_lt_zpow_iff_right₀ (by norm_num : (1 : ℚ) < 2)).mp (hlow.trans_lt high)
  obtain ⟨m, f, hratio, hcarried, hf, hm⟩ := ofRatio_carried hn hd s hk
  refine ⟨m, f, hratio, ?_⟩
  generalize leadingExponent n d = k at *
  generalize hedef : max minExponent (k - 52) = e at *
  generalize hr : (n : ℚ) / d = r at *
  have hpow : (0 : ℚ) < 2 ^ e := by positivity
  have hd' : 0 < d * twoPow e.toNat := Nat.mul_pos hd (twoPow_pos _)
  have hnearest := Rounding.halfEven.quotient_nearest (n := n * twoPow (-e).toNat) hd'
  rw [scaled_ratio, hr] at hnearest
  generalize Rounding.halfEven.quotient (n * twoPow (-e).toNat) (d * twoPow e.toNat) = q at *
  have hek : k - 52 ≤ e := hedef ▸ le_max_right _ _
  -- The double is at least as near as every multiple of its last place.
  have hgrid (j : Nat) : |magnitude m f - r| ≤ |magnitude j e - r| := by
    rw [hcarried, abs_magnitude_sub, abs_magnitude_sub]
    exact mul_le_mul_of_nonneg_right (hnearest.least j ⟨j, rfl⟩) hpow.le
  refine ⟨⟨m, f, hm ?_, hf, rfl⟩, ?_⟩
  · have hsmall : r / 2 ^ e ≤ (twoPow 53 : Nat) := by
      rw [div_le_iff₀ hpow, twoPow_cast, ← zpow_natCast, ← zpow_add₀ (by norm_num)]
      exact hhigh.le.trans (zpow_le_zpow_right₀ (by norm_num) (by omega))
    exact_mod_cast hnearest.le_of_le ⟨twoPow 53, rfl⟩ hsmall
  · rintro _ ⟨m', e', hm', he', rfl⟩
    by_cases hle : e ≤ e'
    · rw [magnitude_shift m' hle]
      exact hgrid _
    · -- A double with a finer last place is below the power of two that the fraction is above.
      have hnormal : e = k - 52 := by omega
      have hpower : magnitude (twoPow 52) e = 2 ^ k := by
        rw [magnitude, twoPow_cast, ← zpow_natCast, ← zpow_add₀ (by norm_num)]
        congr 1
        omega
      have hbelow : magnitude m' e' ≤ 2 ^ k := by
        rw [← hpower, magnitude_shift (twoPow 52) (by omega : e' ≤ e), magnitude, magnitude]
        refine mul_le_mul_of_nonneg_right ?_ (by positivity)
        have hcarry : twoPow 53 ≤ twoPow 52 * twoPow (e - e').toNat := by
          unfold twoPow
          rw [Nat.pow_eq, Nat.pow_eq, Nat.pow_eq, ← pow_add]
          exact Nat.pow_le_pow_right (by omega) (by omega)
        exact_mod_cast hm'.trans hcarry
      refine (hgrid (twoPow 52)).trans ?_
      rw [hpower, abs_of_nonpos (by linarith), abs_of_nonpos (by linarith)]
      linarith

end Binary64

end Assessment.Number
