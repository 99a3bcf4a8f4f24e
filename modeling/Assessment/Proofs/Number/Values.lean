import Assessment.Number.Decimal.Arithmetic
import Assessment.Proofs.Checks
import Mathlib.Algebra.Order.Field.Power
import Mathlib.Data.Rat.Cast.Order
import Mathlib.Tactic

/-!
# The values of decimals

Decimals are compared by their values as rational numbers, whatever their exponents.
-/

namespace Assessment.Number

lemma digitCount_le_iff {n k : Nat} (hk : 0 < k) : digitCount n ≤ k ↔ n < 10 ^ k :=
  Nat.length_toDigits_le_iff (by omega) hk

lemma digitCount_pos (n : Nat) : 0 < digitCount n := Nat.length_toDigits_pos

lemma lt_pow_digitCount (n : Nat) : n < 10 ^ digitCount n :=
  (digitCount_le_iff (digitCount_pos n)).mp le_rfl

lemma pow_le_of_digitCount {n : Nat} (hn : 0 < n) : 10 ^ (digitCount n - 1) ≤ n := by
  by_contra h
  have hpos := digitCount_pos n
  rcases Nat.eq_zero_or_pos (digitCount n - 1) with h0 | h0
  · rw [h0] at h
    omega
  · have := (digitCount_le_iff h0).mpr (not_le.mp h)
    omega

lemma tenPow_cast (k : Nat) : (tenPow k : ℚ) = 10 ^ k := by simp [tenPow]

namespace Decimal

/-- The value of a coefficient with an exponent. -/
def magnitude (c : Nat) (e : Int) : ℚ := c * 10 ^ e

/-- The value of a decimal; what is not finite has none. -/
def value : Decimal → ℚ
  | finite s c e => if s then -magnitude c e else magnitude c e
  | _ => 0

lemma magnitude_nonneg (c : Nat) (e : Int) : 0 ≤ magnitude c e := by
  unfold magnitude
  positivity

@[simp]
lemma magnitude_zero (e : Int) : magnitude 0 e = 0 := by simp [magnitude]

lemma magnitude_pos {c : Nat} (hc : 0 < c) (e : Int) : 0 < magnitude c e := by
  unfold magnitude
  positivity

lemma magnitude_shift (c : Nat) {e e' : Int} (h : e ≤ e') :
    magnitude c e' = magnitude (c * tenPow (e' - e).toNat) e := by
  unfold magnitude
  rw [Nat.cast_mul, tenPow_cast, mul_assoc, ← zpow_natCast, ← zpow_add₀ (by norm_num)]
  congr 2
  omega

lemma compare_magnitude (c d : Nat) (e : Int) :
    compare (magnitude c e) (magnitude d e) = compare c d := by
  have hpos : (0 : ℚ) < 10 ^ e := by positivity
  unfold magnitude
  rcases lt_trichotomy c d with h | h | h
  · rw [compare_lt_iff_lt.mpr h, compare_lt_iff_lt]
    exact mul_lt_mul_of_pos_right (by exact_mod_cast h) hpos
  · rw [h, compare_eq_iff_eq.mpr rfl, compare_eq_iff_eq.mpr rfl]
  · rw [compare_gt_iff_gt.mpr h, compare_gt_iff_gt]
    exact mul_lt_mul_of_pos_right (by exact_mod_cast h) hpos

lemma magnitude_bounds {c : Nat} (hc : 0 < c) (e : Int) :
    (10 : ℚ) ^ adjusted c e ≤ magnitude c e ∧ magnitude c e < 10 ^ (adjusted c e + 1) := by
  have hpos := digitCount_pos c
  have hlow : (10 : ℚ) ^ (digitCount c - 1) ≤ c := by exact_mod_cast pow_le_of_digitCount hc
  have hhigh : (c : ℚ) < 10 ^ digitCount c := by exact_mod_cast lt_pow_digitCount c
  have he : (0 : ℚ) < 10 ^ e := by positivity
  unfold magnitude adjusted
  constructor
  · calc (10 : ℚ) ^ (e + digitCount c - 1) = 10 ^ (digitCount c - 1) * 10 ^ e := by
          rw [← zpow_natCast, ← zpow_add₀ (by norm_num)]
          congr 1
          omega
      _ ≤ c * 10 ^ e := mul_le_mul_of_nonneg_right hlow he.le
  · calc (c : ℚ) * 10 ^ e < 10 ^ digitCount c * 10 ^ e := mul_lt_mul_of_pos_right hhigh he
      _ = 10 ^ (e + digitCount c - 1 + 1) := by
          rw [← zpow_natCast, ← zpow_add₀ (by norm_num)]
          congr 1
          omega

lemma magnitude_lt_of_adjusted {c d : Nat} (hc : 0 < c) (hd : 0 < d) {e f : Int}
    (h : adjusted c e < adjusted d f) : magnitude c e < magnitude d f :=
  calc magnitude c e < 10 ^ (adjusted c e + 1) := (magnitude_bounds hc e).2
    _ ≤ 10 ^ adjusted d f := zpow_le_zpow_right₀ (by norm_num) (by omega)
    _ ≤ magnitude d f := (magnitude_bounds hd f).1

lemma compareMagnitude_eq (c : Nat) (e : Int) (d : Nat) (f : Int) :
    compareMagnitude c e d f = compare (magnitude c e) (magnitude d f) := by
  unfold compareMagnitude
  rcases Nat.eq_zero_or_pos c with rfl | hc
  · rcases Nat.eq_zero_or_pos d with rfl | hd
    · simp
    · simp [hd.ne', compare_lt_iff_lt.mpr (magnitude_pos hd f)]
  · rcases Nat.eq_zero_or_pos d with rfl | hd
    · simp [hc.ne', compare_gt_iff_gt.mpr (magnitude_pos hc e)]
    · rw [if_neg hc.ne', if_neg hd.ne']
      by_cases hlt : adjusted c e < adjusted d f
      · rw [if_pos hlt, compare_lt_iff_lt.mpr (magnitude_lt_of_adjusted hc hd hlt)]
      · rw [if_neg hlt]
        by_cases hgt : adjusted d f < adjusted c e
        · rw [if_pos hgt, compare_gt_iff_gt.mpr (magnitude_lt_of_adjusted hd hc hgt)]
        · rw [if_neg hgt, magnitude_shift c (min_le_left e f), magnitude_shift d (min_le_right e f),
            compare_magnitude]

lemma value_finite (s : Bool) (c : Nat) (e : Int) :
    (finite s c e).value = if s then -magnitude c e else magnitude c e := rfl

lemma value_of_nonneg {s : Bool} {c : Nat} {e : Int} (h : 0 ≤ (finite s c e).value) :
    (s = true → c = 0) ∧ (finite s c e).value = magnitude c e := by
  rw [value_finite] at h ⊢
  cases s with
  | false => exact ⟨nofun, rfl⟩
  | true =>
    rcases Nat.eq_zero_or_pos c with rfl | hc
    · simp
    · have := magnitude_pos hc e
      simp only [if_true] at h
      linarith

lemma compare_neg (a b : ℚ) : compare (-a) (-b) = compare b a := by
  rcases lt_trichotomy a b with h | h | h
  · rw [compare_gt_iff_gt.mpr (neg_lt_neg h), compare_gt_iff_gt.mpr h]
  · rw [h, compare_eq_iff_eq.mpr rfl, compare_eq_iff_eq.mpr rfl]
  · rw [compare_lt_iff_lt.mpr (neg_lt_neg h), compare_lt_iff_lt.mpr h]

lemma compare?_finite (s : Bool) (c : Nat) (e : Int) (t : Bool) (d : Nat) (f : Int) :
    compare? (finite s c e) (finite t d f) =
      some (compare (finite s c e).value (finite t d f).value) := by
  simp only [compare?, value_finite]
  rcases Nat.eq_zero_or_pos c with rfl | hc <;> rcases Nat.eq_zero_or_pos d with rfl | hd
  · simp
  · have hpos := magnitude_pos hd f
    have hneg : -magnitude d f < 0 := neg_neg_of_pos hpos
    cases t <;> simp [hd.ne', compare_lt_iff_lt.mpr hpos, compare_gt_iff_gt.mpr hneg]
  · have hpos := magnitude_pos hc e
    have hneg : -magnitude c e < 0 := neg_neg_of_pos hpos
    cases s <;> simp [hc.ne', compare_gt_iff_gt.mpr hpos, compare_lt_iff_lt.mpr hneg]
  · have hc' := magnitude_pos hc e
    have hd' := magnitude_pos hd f
    have hneg : -magnitude c e < magnitude d f := by linarith
    have hneg' : -magnitude d f < magnitude c e := by linarith
    cases s <;> cases t <;>
      simp [hc.ne', hd.ne', compareMagnitude_eq, compare_neg, compare_lt_iff_lt.mpr hneg,
        compare_gt_iff_gt.mpr hneg']

lemma value_ofInt (n : Int) : (ofInt n).value = n := by
  unfold ofInt
  rw [value_finite]
  by_cases h : n < 0
  · simp [h, magnitude, Nat.cast_natAbs, abs_of_neg h]
  · simp [h, magnitude, Nat.cast_natAbs, abs_of_nonneg (not_lt.mp h)]

lemma sameValue_ofInt {m n : Int} : (ofInt m).sameValue (ofInt n) = true ↔ m = n := by
  have h : compare? (ofInt m) (ofInt n) = some (compare (ofInt m).value (ofInt n).value) :=
    compare?_finite ..
  rw [sameValue, h, value_ofInt, value_ofInt, beq_iff_eq, Option.some_inj, compare_eq_iff_eq]
  exact Int.cast_inj

lemma less_eq_ok {a b : Decimal} {r : Bool} (h : a.less b = .ok r) (s signaling : Bool)
    (payload : Nat) : a ≠ nan s signaling payload ∧ b ≠ nan s signaling payload := by
  unfold less at h
  constructor
  · rintro rfl
    simp [compare?] at h
  · rintro rfl
    cases a <;> simp [compare?] at h

lemma toHundredths_eq_ok {mode : Rounding} {d r : Decimal} (h : d.toHundredths mode = .ok r) :
    (∃ s c, c < 10 ^ precision ∧ r = finite s c (-2)) ∨ ∃ s payload, d = nan s false payload ∧ r = d := by
  unfold toHundredths at h
  cases d with
  | nan s signaling payload =>
    simp only [unless_eq_ok, Bool.not_eq_true, Except.ok.injEq] at h
    exact .inr ⟨s, payload, by rw [h.1], by rw [h.1, h.2]⟩
  | infinite s => simp at h
  | finite s c e =>
    by_cases hc : c = 0
    · simp only [hc, if_true, Except.ok.injEq] at h
      exact .inl ⟨s, 0, by unfold precision; omega, h.symm⟩
    · simp only [hc, if_false, unless_eq_ok, Except.ok.injEq] at h
      exact .inl ⟨s, _, (digitCount_le_iff (by unfold precision; omega)).mp (not_lt.mp h.2.1), h.2.2.symm⟩

lemma toHundredths_finite {mode : Rounding} {d r : Decimal} (finite : d.isFinite = true)
    (h : d.toHundredths mode = .ok r) : ∃ s c, c < 10 ^ precision ∧ r = .finite s c (-2) := by
  rcases toHundredths_eq_ok h with hundredths | ⟨_, _, rfl, -⟩
  · exact hundredths
  · cases finite

lemma atMost_finite (s : Bool) (c : Nat) (e : Int) (t : Bool) (d : Nat) (f : Int) :
    (finite s c e).atMost (finite t d f) =
      .ok (decide ((finite s c e).value ≤ (finite t d f).value)) := by
  unfold atMost
  rw [compare?_finite]
  rcases lt_trichotomy (finite s c e).value (finite t d f).value with h | h | h
  · simp [compare_lt_iff_lt.mpr h, h.le]
  · simp [h]
  · simp [compare_gt_iff_gt.mpr h, h]

lemma atMost_zero_of_pos {c : Nat} (hc : 0 < c) (e : Int) : (finite false c e).atMost .zero = .ok false := by
  rw [zero, atMost_finite, value_finite, value_finite, if_neg Bool.false_ne_true, magnitude_zero]
  simpa using magnitude_pos hc e

lemma less_finite (s : Bool) (c : Nat) (e : Int) (t : Bool) (d : Nat) (f : Int) :
    (finite s c e).less (finite t d f) =
      .ok (decide ((finite s c e).value < (finite t d f).value)) := by
  unfold less
  rw [compare?_finite]
  rcases lt_trichotomy (finite s c e).value (finite t d f).value with h | h | h
  · simp [compare_lt_iff_lt.mpr h, h]
  · simp [h]
  · simp [compare_gt_iff_gt.mpr h, h.le]

lemma sameValue_finite (s : Bool) (c : Nat) (e : Int) (t : Bool) (d : Nat) (f : Int) :
    (finite s c e).sameValue (finite t d f) = true ↔
      (finite s c e).value = (finite t d f).value := by
  rw [sameValue, compare?_finite, beq_iff_eq, Option.some_inj, compare_eq_iff_eq]

lemma hundredths_of_less {mode : Rounding} {given d x : Decimal} {r : Bool}
    (h : given.toHundredths mode = .ok d) (hless : d.less x = .ok r) : ∃ s c, d = finite s c (-2) := by
  rcases toHundredths_eq_ok h with ⟨s, c, -, hd⟩ | ⟨s, payload, hnan, heq⟩
  · exact ⟨s, c, hd⟩
  · exact absurd (heq.trans hnan) (less_eq_ok hless s false payload).1

lemma toHundredths_hundredths {mode : Rounding} {s : Bool} {c : Nat} {r : Decimal}
    (h : (finite s c (-2)).toHundredths mode = .ok r) : r = finite s c (-2) := by
  unfold toHundredths at h
  by_cases hc : c = 0
  · simp only [hc, if_true, Except.ok.injEq] at h
    rw [← h, hc]
  · simp only [hc, if_false, unless_eq_ok, Except.ok.injEq] at h
    simpa [tenPow] using h.2.2.symm

lemma hundredths_pos {d : Decimal} (h : ∃ s c, c < 10 ^ precision ∧ d = finite s c (-2)) {nothing : Bool}
    (hnothing : d.atMost .zero = .ok nothing) (hpositive : ¬nothing = true) :
    ∃ n, 0 < n ∧ n < 10 ^ 28 ∧ d = finite false n (-2) := by
  obtain ⟨s, n, hn, rfl⟩ := h
  have hzero : (finite false 0 0).value = 0 := by simp [value_finite]
  rw [zero, atMost_finite, hzero, Except.ok.injEq] at hnothing
  rw [← hnothing, decide_eq_true_eq, not_le] at hpositive
  obtain ⟨hsign, hvalue⟩ := value_of_nonneg hpositive.le
  have hne : n ≠ 0 := by
    rintro rfl
    simp [hvalue] at hpositive
  cases s with
  | false => exact ⟨n, Nat.pos_of_ne_zero hne, hn, rfl⟩
  | true => exact absurd (hsign rfl) hne

lemma magnitude_hundredths (c : Nat) : magnitude c (-2) = c / 100 := by
  unfold magnitude
  norm_num
  ring

lemma hundredths_le {s : Bool} {c n : Nat} (low : 0 ≤ (finite s c (-2)).value)
    (high : (finite s c (-2)).value ≤ (finite false n (-2)).value) : c ≤ n := by
  rw [(value_of_nonneg low).2, value_finite, if_neg Bool.false_ne_true, magnitude_hundredths,
    magnitude_hundredths] at high
  have hle : (c : ℚ) ≤ n := by linarith
  exact_mod_cast hle

end Decimal

end Assessment.Number
