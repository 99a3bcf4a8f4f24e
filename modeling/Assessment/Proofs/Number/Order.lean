import Assessment.Proofs.Number.Amounts
import Assessment.Proofs.Number.Nearest

/-!
# Storing keeps the order

A number of hundredths is stored as the nearest double, and a double is read back as the nearest number
of hundredths; each keeps the order. What was read back once is read back the same when it is stored
again, although the two doubles may differ. So hundredths that are at most what a stored amount reads as
are still so when they are stored themselves.
-/

namespace Assessment

open Number

namespace Number.Binary64

lemma isDouble_zero : IsDouble 0 := ⟨0, minExponent, Nat.zero_le _, le_rfl, by simp [magnitude]⟩

lemma isDouble_pow {k : Int} (h : minExponent ≤ k) : IsDouble (2 ^ k) :=
  ⟨1, k, by decide, h, by simp [magnitude]⟩

/-- Two doubles are not a hundredth apart: it has no finite binary expansion. -/
lemma IsDouble.sub_ne {x y : ℚ} (hx : IsDouble x) (hy : IsDouble y) : (y - x) * 100 ≠ 1 := by
  obtain ⟨m, e, -, he, rfl⟩ := hx
  obtain ⟨m', e', -, he', rfl⟩ := hy
  obtain ⟨k, hk⟩ : ∃ k : Nat, minExponent = -k := ⟨1074, rfl⟩
  rw [magnitude_shift m he, magnitude_shift m' he', hk]
  generalize m * twoPow (e - -k).toNat = a
  generalize m' * twoPow (e' - -k).toNat = b
  intro h
  have hscaled : ((b : ℚ) - a) * 100 = 2 ^ k := by
    unfold magnitude at h
    rw [zpow_neg, zpow_natCast] at h
    field_simp at h
    linarith
  have hint : ((b : Int) - a) * 100 = 2 ^ k := by exact_mod_cast hscaled
  have hfive : (5 : Int) ∣ 2 ^ k := ⟨((b : Int) - a) * 20, by rw [← hint]; ring⟩
  have := (Int.prime_iff_natAbs_prime.mpr (by norm_num)).dvd_of_dvd_pow hfive
  omega

end Number.Binary64

namespace Amount

open Binary64

/-- The number of hundredths that a double is read back as. -/
def hundredths (m : Nat) (e : Int) : Nat :=
  Rounding.halfEven.quotient ((Binary64.ratio m e).1 * tenPow 2) (Binary64.ratio m e).2

lemma toDecimal_hundredths (m : Nat) (e : Int) :
    toDecimal ⟨.finite false m e⟩ = .finite false (hundredths m e) (-2) := rfl

section Reading

variable {m m' : Nat} {e e' : Int}

lemma hundredths_error (m : Nat) (e : Int) : |(hundredths m e : ℚ) - magnitude m e * 100| ≤ 1 / 2 := by
  rw [← hundredths_ratio]
  exact Rounding.quotient_error _ (ratio_snd_pos m e) _

lemma hundredths_eq {k : Nat} (h : |magnitude m e * 100 - k| < 1 / 2) : hundredths m e = k := by
  rw [← hundredths_ratio] at h
  exact Rounding.quotient_eq (ratio_snd_pos m e) h

lemma hundredths_mono (h : magnitude m e ≤ magnitude m' e') : hundredths m e ≤ hundredths m' e' := by
  refine Rounding.quotient_mono (ratio_snd_pos m e) (ratio_snd_pos m' e') ?_
  rw [hundredths_ratio, hundredths_ratio]
  linarith

lemma hundredths_stored (hx : IsDouble (magnitude m e))
    (hy : Nearest IsDouble (magnitude m' e') (hundredths m e / 100)) :
    hundredths m' e' = hundredths m e := by
  have hnear := hy.least _ hx
  have hhalf := hundredths_error m e
  generalize hk : hundredths m e = k at *
  generalize hxdef : magnitude m e = x at *
  generalize hydef : magnitude m' e' = y at *
  -- The new double is at least as near to the hundredths as the first one, which is within a half.
  have hscale (z : ℚ) : |z - (k : ℚ) / 100| * 100 = |z * 100 - k| := by
    rw [← abs_of_pos (by norm_num : (0 : ℚ) < 100), ← abs_mul, abs_of_pos (by norm_num : (0 : ℚ) < 100)]
    congr 1
    ring
  have hcloser : |y * 100 - k| ≤ |x * 100 - k| := by
    rw [← hscale, ← hscale]
    linarith
  rw [abs_sub_comm] at hhalf
  by_cases hstrict : |y * 100 - k| < 1 / 2
  · exact hundredths_eq (hydef ▸ hstrict)
  · -- Both are half way between the same two numbers, so they are one double.
    have hyhalf : |y * 100 - k| = 1 / 2 := le_antisymm (hcloser.trans hhalf) (not_lt.mp hstrict)
    have hxhalf : |x * 100 - k| = 1 / 2 := le_antisymm hhalf (hyhalf ▸ hcloser)
    have hsame : y = x := by
      rcases abs_cases (y * 100 - k) with ⟨hy', -⟩ | ⟨hy', -⟩ <;>
        rcases abs_cases (x * 100 - k) with ⟨hx', -⟩ | ⟨hx', -⟩
      · linarith
      · exact absurd (by linarith) (hx.sub_ne hy.kind)
      · exact absurd (by linarith) (hy.kind.sub_ne hx)
      · linarith
    rw [← hk]
    exact le_antisymm (hundredths_mono (by rw [hydef, hxdef, hsame]))
      (hundredths_mono (by rw [hydef, hxdef, hsame]))

end Reading

section Storing

lemma ofDecimal?_nearest {c : Nat} (hlt : c < 10 ^ 40) :
    ∃ m e, ofDecimal? (.finite false c (-2)) = some ⟨.finite false m e⟩ ∧
      Nearest IsDouble (magnitude m e) (c / 100) := by
  rcases Nat.eq_zero_or_pos c with rfl | hc
  · refine ⟨0, minExponent, ?_, ?_⟩
    · simp [ofDecimal?, Binary64.ofDecimal, Binary64.ofScaled, ofBinary64?]
    · have hzero : magnitude 0 minExponent = 0 := by simp [magnitude]
      rw [hzero, Nat.cast_zero, zero_div]
      exact ⟨isDouble_zero, fun y _ => by simp⟩
  · have hlt' : (c : ℚ) < 10 ^ 40 := by exact_mod_cast hlt
    have hhigh : (c : ℚ) / (100 : Nat) < 2 ^ (1022 : Int) :=
      calc (c : ℚ) / (100 : Nat) < 2 ^ (200 : Int) := by
            norm_num
            linarith
        _ ≤ 2 ^ (1022 : Int) := zpow_le_zpow_right₀ (by norm_num) (by norm_num)
    obtain ⟨m, e, hratio, hnearest⟩ := ofRatio_nearest hc (by norm_num : 0 < 100) false hhigh
    refine ⟨m, e, ?_, by simpa using hnearest⟩
    change ofBinary64? (Binary64.ofScaled false c (-2)) = _
    rw [ofScaled_hundredths hc hlt, hratio]
    rfl

/-- The stored amounts of hundredths with at most 28 digits. -/
def IsStored (a : Amount) : Prop := ∃ c, c < 10 ^ 28 ∧ ofDecimal? (.finite false c (-2)) = some a

lemma IsStored.double {a : Amount} (h : IsStored a) :
    ∃ m e, a = ⟨.finite false m e⟩ ∧ IsDouble (magnitude m e) ∧ hundredths m e < 10 ^ 40 := by
  obtain ⟨c, hlt, hstored⟩ := h
  obtain ⟨m, e, hfound, hnearest⟩ := ofDecimal?_nearest (hlt.trans (by norm_num))
  obtain rfl := Option.some.inj (hfound.symm.trans hstored)
  refine ⟨m, e, rfl, hnearest.kind, ?_⟩
  have hlt' : (c : ℚ) < 10 ^ 28 := by exact_mod_cast hlt
  have hbound : magnitude m e ≤ 2 ^ (100 : Int) := by
    refine hnearest.le_of_le (isDouble_pow (by unfold minExponent; omega)) ?_
    norm_num
    linarith
  have herror := (abs_le.mp (hundredths_error m e)).2
  have hcast : (hundredths m e : ℚ) < 10 ^ 40 := by
    norm_num at hbound
    linarith
  exact_mod_cast hcast

/-- Hundredths that are at most what a stored amount reads as still are when they are stored. -/
lemma IsStored.read_le {a : Amount} (h : IsStored a) {n : Nat}
    (hread : a.toDecimal = .finite false n (-2)) {c : Nat} (hle : c ≤ n) :
    ∃ b k, ofDecimal? (.finite false c (-2)) = some b ∧ k ≤ n ∧
      b.toDecimal = .finite false k (-2) := by
  obtain ⟨m, e, rfl, hdouble, hlt⟩ := h.double
  obtain rfl : hundredths m e = n := by
    rw [toDecimal_hundredths] at hread
    injection hread
  obtain ⟨m₁, e₁, hstored, hnearest⟩ := ofDecimal?_nearest (hle.trans_lt hlt)
  obtain ⟨m₂, e₂, -, hnearest'⟩ := ofDecimal?_nearest hlt
  refine ⟨_, hundredths m₁ e₁, hstored, ?_, toDecimal_hundredths m₁ e₁⟩
  rcases hle.eq_or_lt with rfl | hless
  · exact (hundredths_stored hdouble hnearest).le
  · rw [← hundredths_stored hdouble hnearest']
    refine hundredths_mono (hnearest.mono hnearest' ?_)
    have : (c : ℚ) < hundredths m e := by exact_mod_cast hless
    linarith

lemma ofDecimal?_unsigned {s : Bool} {c : Nat} (h : s = true → c = 0) (e : Int) :
    ofDecimal? (.finite s c e) = ofDecimal? (.finite false c e) := by
  cases s with
  | false => rfl
  | true =>
    rw [h rfl]
    simp [ofDecimal?, Binary64.ofDecimal, Binary64.ofScaled, ofBinary64?]

end Storing

section Weights

lemma scaled_fraction (c : Nat) (e : Int) :
    ((c * tenPow e.toNat : Nat) : ℚ) / (tenPow (-e).toNat : Nat) = Decimal.magnitude c e := by
  have hpos : (0 : ℚ) < 10 ^ (-e).toNat := by positivity
  have hpow : (10 : ℚ) ^ e.toNat = 10 ^ e * 10 ^ (-e).toNat := by
    rw [← zpow_natCast, ← zpow_natCast, ← zpow_add₀ (by norm_num)]
    congr 1
    omega
  rw [Nat.cast_mul, tenPow_cast, tenPow_cast, hpow, ← mul_assoc, mul_div_cancel_right₀ _ hpos.ne']
  rfl

lemma ofScaled_le_one {c : Nat} {e : Int} (h : Decimal.magnitude c e ≤ 1) :
    ∃ m f, Binary64.ofScaled false c e = .finite false m f ∧ magnitude m f ≤ 1 := by
  have hzero : magnitude 0 minExponent ≤ 1 := by simp [magnitude]
  unfold Binary64.ofScaled
  by_cases hc : c = 0
  · rw [if_pos hc]
    exact ⟨0, minExponent, rfl, hzero⟩
  · have hpos := Nat.pos_of_ne_zero hc
    have hleading : Decimal.adjusted c e ≤ 0 := by
      by_contra hlarge
      have hten : (10 : ℚ) ^ (1 : Int) ≤ 10 ^ Decimal.adjusted c e :=
        zpow_le_zpow_right₀ (by norm_num) (by omega)
      have := (Decimal.magnitude_bounds hpos e).1
      norm_num at hten
      linarith
    rw [if_neg hc]
    dsimp only
    rw [if_neg (by omega)]
    by_cases hsmall : Decimal.adjusted c e < -400
    · rw [if_pos hsmall]
      exact ⟨0, minExponent, rfl, hzero⟩
    · rw [if_neg hsmall]
      have hn : 0 < c * tenPow e.toNat := Nat.mul_pos hpos (Nat.pow_pos (by omega))
      have hd : 0 < tenPow (-e).toNat := Nat.pow_pos (by omega)
      have hhigh : ((c * tenPow e.toNat : Nat) : ℚ) / (tenPow (-e).toNat : Nat) < 2 ^ (1022 : Int) := by
        rw [scaled_fraction]
        exact h.trans_lt (one_lt_zpow₀ (by norm_num) (by norm_num))
      obtain ⟨m, f, hratio, hnearest⟩ := ofRatio_nearest hn hd false hhigh
      rw [scaled_fraction] at hnearest
      refine ⟨m, f, hratio, hnearest.le_of_le ?_ h⟩
      simpa using isDouble_pow (k := 0) (by unfold minExponent; omega)

lemma toWeight_finite (m : Nat) (e : Int) :
    toWeight ⟨.finite false m e⟩ = .finite false (Rounding.halfEven.quotient
      ((Binary64.ratio m e).1 * tenPow 4) (Binary64.ratio m e).2) (-4) := rfl

lemma weight_le_one {c : Nat} {e : Int} (h : Decimal.magnitude c e ≤ 1) {a : Amount}
    (ha : ofDecimal? (.finite false c e) = some a) :
    ∃ n, n ≤ 10000 ∧ a.toWeight = .finite false n (-4) := by
  obtain ⟨m, f, hscaled, hle⟩ := ofScaled_le_one h
  have hstored : ofDecimal? (.finite false c e) = some ⟨.finite false m f⟩ := by
    change ofBinary64? (Binary64.ofScaled false c e) = _
    rw [hscaled]
    rfl
  obtain rfl := Option.some.inj (hstored.symm.trans ha)
  refine ⟨_, ?_, toWeight_finite m f⟩
  have hone : Rounding.halfEven.quotient 10000 1 = 10000 := by decide
  rw [← hone]
  refine Rounding.quotient_mono (ratio_snd_pos m f) Nat.one_pos ?_
  rw [Nat.cast_mul, mul_div_right_comm, ratio_eq, tenPow_cast]
  norm_num
  linarith

end Weights

end Amount

end Assessment
