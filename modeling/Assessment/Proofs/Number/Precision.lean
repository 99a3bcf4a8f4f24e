import Assessment.Proofs.Number.Rounded

/-!
# Numbers that 28 digits suffice for

A result that is rounded is rounded past no number that 28 digits suffice for. So such a number bounds what
it bounds before the rounding, however often sums, products and quotients are rounded on the way.
-/

namespace Assessment.Number.Decimal

/-- A number that the precision suffices for. -/
def Short (y : ℚ) : Prop := ∃ k j, k ≤ 10 ^ precision ∧ tiniestExponent ≤ j ∧ y = magnitude k j

/-- A number is rounded to one that the precision suffices for, and past no other of that kind. -/
structure Rounds (x r : ℚ) : Prop where
  short : Short r
  low : ∀ y, Short y → y ≤ x → y ≤ r
  high : ∀ y, Short y → x ≤ y → r ≤ y

section Grids

variable {x x' r y : ℚ} {c : Nat} {e g : Int}

lemma short_magnitude {k : Nat} (hk : k ≤ 10 ^ precision) {j : Int} (hj : tiniestExponent ≤ j) :
    Short (magnitude k j) := ⟨k, j, hk, hj, rfl⟩

lemma short_zero : Short 0 := ⟨0, 0, Nat.zero_le _, by decide, by simp⟩

lemma Rounds.congr (h : Rounds x' r) (low : ∀ y, Short y → y ≤ x → y ≤ x')
    (high : ∀ y, Short y → x ≤ y → x' ≤ y) : Rounds x r :=
  ⟨h.short, fun y hy hle => h.low y hy (low y hy hle), fun y hy hle => h.high y hy (high y hy hle)⟩

lemma Short.on_grid (h : Short y) (g : Int) :
    (∃ m : Nat, y = magnitude m g) ∨ tiniestExponent < g ∧ y ≤ magnitude (10 ^ 27) g := by
  obtain ⟨k, j, hk, hj, rfl⟩ := h
  by_cases hjg : g ≤ j
  · exact .inl ⟨_, magnitude_shift k hjg⟩
  · refine .inr ⟨by omega, ?_⟩
    rw [magnitude_shift (10 ^ 27) (by omega : j ≤ g), magnitude_le_magnitude]
    refine hk.trans ?_
    calc 10 ^ precision = 10 ^ 27 * 10 ^ 1 := by rw [precision]; norm_num
      _ ≤ 10 ^ 27 * 10 ^ (g - j).toNat :=
          Nat.mul_le_mul_left _ (Nat.pow_le_pow_right (by omega) (by omega))

end Grids

section Fitting

variable {x r : ℚ} {s : Bool} {c : Nat} {e : Int}

/-- A number lies among those that the precision suffices for as the multiples of its unit do: where the unit
leaves 28 digits, what is no multiple of it is below them all. -/
lemma rounds_rounded (x : ℚ) : Rounds x (rounded x) := by
  refine ⟨short_magnitude (nearest_le (le_largest x)) (le_max_right _ _), fun y hy hle => ?_, fun y hy hle => ?_⟩
  · rcases le_or_gt x 0 with hx | hx
    · exact (hle.trans hx).trans (rounded_nonneg x)
    · rcases hy.on_grid (unit x) with ⟨m, rfl⟩ | ⟨htop, hbelow⟩
      · exact le_rounded hle
      · exact hbelow.trans (le_rounded (smallest_le hx htop))
  · rcases le_or_gt x 0 with hx | hx
    · obtain ⟨k, j, -, -, rfl⟩ := hy
      rw [rounded_of_nonpos hx]
      exact magnitude_nonneg k j
    · rcases hy.on_grid (unit x) with ⟨m, rfl⟩ | ⟨htop, hbelow⟩
      · exact rounded_le hle
      · exact (rounded_le (hle.trans hbelow)).trans ((smallest_le hx htop).trans hle)

lemma Rounds.eq_of_short (h : Rounds x r) (hx : Short x) : r = x :=
  le_antisymm (h.high x hx le_rfl) (h.low x hx le_rfl)

lemma fit_rounds {r : Decimal} (h : fit s c e = .ok r) :
    ∃ c' e', r = finite s c' e' ∧ Rounds (magnitude c e) (magnitude c' e') := by
  obtain ⟨k, g, hr, hvalue⟩ := fit_rounded h
  exact ⟨k, g, hr, hvalue ▸ rounds_rounded _⟩

end Fitting

section Operations

variable {c₁ c₂ : Nat} {e₁ e₂ : Int}

lemma sum_le_short {big small : Nat} {bigExp smallExp floor : Int} (hbig : 0 < big) (hsmall : 0 < small)
    (hunit : floor ≤ bigExp) (hdigits : floor + precision + 2 ≤ bigExp + digitCount big) {y : ℚ}
    (hy : Short y) (h : magnitude big bigExp + magnitude small smallExp ≤ y) :
    magnitude big bigExp + magnitude 1 floor ≤ y := by
  have hlt : magnitude big bigExp < y := (lt_add_of_pos_right _ (magnitude_pos hsmall smallExp)).trans_le h
  rcases hy.on_grid floor with ⟨m, rfl⟩ | ⟨-, hbelow⟩
  · rw [magnitude_shift big hunit] at hlt ⊢
    have hm : ¬m ≤ big * tenPow (bigExp - floor).toNat := mt magnitude_le_magnitude.mpr (not_le.mpr hlt)
    rw [magnitude, magnitude, ← add_mul, ← Nat.cast_add]
    exact magnitude_le_magnitude.mpr (by omega)
  · have hlow := (magnitude_bounds hbig bigExp).1
    have hpow : magnitude (10 ^ 27) floor ≤ 10 ^ adjusted big bigExp := by
      rw [magnitude_pow]
      refine zpow_le_zpow_right₀ (by norm_num) ?_
      unfold precision at hdigits
      unfold adjusted
      omega
    linarith

lemma placed_sum {big small : Nat} {bigExp smallExp : Int} (hbig : 0 < big) (hsmall : 0 < small)
    (hle : smallExp ≤ bigExp) {y : ℚ} (hy : Short y) :
    let floor := bigExp + min (-1) ((digitCount big : Int) - precision - 2)
    let r := if smallExp + digitCount small - 1 < floor then (1, floor) else (small, smallExp)
    let sum := magnitude (big * tenPow (bigExp - r.2).toNat + r.1) r.2
    (y ≤ magnitude big bigExp + magnitude small smallExp → y ≤ sum) ∧
      (magnitude big bigExp + magnitude small smallExp ≤ y → sum ≤ y) := by
  intro floor r sum
  have hadd {n : Nat} {e : Int} (he : e ≤ bigExp) :
      magnitude (big * tenPow (bigExp - e).toNat + n) e = magnitude big bigExp + magnitude n e := by
    rw [magnitude_shift big he]
    simp only [magnitude]
    push_cast
    ring
  by_cases htiny : smallExp + digitCount small - 1 < floor
  · have hr : r = (1, floor) := if_pos htiny
    have hsum : sum = magnitude big bigExp + magnitude 1 floor := by
      change magnitude (big * tenPow (bigExp - r.2).toNat + r.1) r.2 = _
      rw [hr]
      exact hadd (by omega)
    rw [hsum]
    refine ⟨fun h => ?_, sum_le_short hbig hsmall (by omega) (by omega) hy⟩
    have hbelow : magnitude small smallExp < magnitude 1 floor :=
      (magnitude_bounds hsmall smallExp).2.trans_le <| by
        rw [magnitude, Nat.cast_one, one_mul]
        exact zpow_le_zpow_right₀ (by norm_num) (by unfold adjusted; omega)
    linarith
  · have hr : r = (small, smallExp) := if_neg htiny
    have hsum : sum = magnitude big bigExp + magnitude small smallExp := by
      change magnitude (big * tenPow (bigExp - r.2).toNat + r.1) r.2 = _
      rw [hr]
      exact hadd hle
    rw [hsum]
    exact ⟨id, id⟩

variable (e₁ e₂) in
lemma align_sum (h₁ : 0 < c₁) (h₂ : 0 < c₂) {y : ℚ} (hy : Short y) :
    let r := align c₁ e₁ c₂ e₂
    (y ≤ magnitude c₁ e₁ + magnitude c₂ e₂ → y ≤ magnitude (r.1 + r.2.1) r.2.2) ∧
      (magnitude c₁ e₁ + magnitude c₂ e₂ ≤ y → magnitude (r.1 + r.2.1) r.2.2 ≤ y) := by
  by_cases hlt : e₁ < e₂
  · have hplaced := placed_sum h₂ h₁ hlt.le hy
    rw [add_comm (magnitude c₁ e₁)]
    simpa only [align, if_pos hlt, if_true, Nat.add_comm] using hplaced
  · have hplaced := placed_sum h₁ h₂ (not_lt.mp hlt) hy
    simpa only [align, if_neg hlt, Bool.false_eq_true, if_false] using hplaced

lemma addZero_rounds {zeroExponent : Int} {s : Bool} {c : Nat} {e : Int} {r : Decimal}
    (h : addZero zeroExponent s c e = .ok r) :
    ∃ c' e', r = finite s c' e' ∧ Rounds (magnitude c e) (magnitude c' e') := by
  have hle : max (min zeroExponent e) (e - precision - 1) ≤ e := by
    unfold precision
    omega
  rw [magnitude_shift c hle]
  exact fit_rounds h

lemma add_rounds {r : Decimal} (h : add (finite false c₁ e₁) (finite false c₂ e₂) = .ok r) :
    ∃ c e, r = finite false c e ∧ Rounds (magnitude c₁ e₁ + magnitude c₂ e₂) (magnitude c e) := by
  unfold add at h
  by_cases h₁ : c₁ = 0
  · rw [h₁, magnitude_zero, zero_add]
    by_cases h₂ : c₂ = 0
    · simp only [if_pos h₁, if_pos h₂] at h
      rw [h₂]
      simpa using fit_rounds h
    · simp only [if_pos h₁, if_neg h₂] at h
      exact addZero_rounds h
  · by_cases h₂ : c₂ = 0
    · simp only [if_neg h₁, if_pos h₂] at h
      rw [h₂, magnitude_zero, add_zero]
      exact addZero_rounds h
    · have haligned {y : ℚ} (hy : Short y) :=
        align_sum e₁ e₂ (Nat.pos_of_ne_zero h₁) (Nat.pos_of_ne_zero h₂) hy
      simp only [if_neg h₁, if_neg h₂, if_true] at h
      obtain ⟨c, e, rfl, hrounds⟩ := fit_rounds h
      exact ⟨c, e, rfl, hrounds.congr (fun y hy => (haligned hy).1) fun y hy => (haligned hy).2⟩

lemma mul_isOk (s t : Bool) {y : ℚ} (hy : Short y) (hlt : y < 10 ^ (100 : Int))
    (h : magnitude c₁ e₁ * magnitude c₂ e₂ ≤ y) :
    ∃ c e, mul (finite s c₁ e₁) (finite t c₂ e₂) = .ok (finite (s != t) c e) ∧ magnitude c e ≤ y := by
  rw [← magnitude_mul] at h
  obtain ⟨r, hfit⟩ := fit_isOk (s != t) (h.trans_lt hlt)
  obtain ⟨c, e, rfl, hrounds⟩ := fit_rounds hfit
  exact ⟨c, e, hfit, hrounds.high y hy h⟩

lemma stripZeros_magnitude (fuel c : Nat) (e ideal : Int) :
    let r := stripZeros fuel c e ideal
    magnitude r.1 r.2 = magnitude c e := by
  induction fuel generalizing c e with
  | zero => rfl
  | succ fuel ih =>
    unfold stripZeros
    split_ifs with h
    · have hshift : magnitude (c / 10) (e + 1) = magnitude c e := by
        rw [magnitude_shift _ (by omega : e ≤ e + 1), show (e + 1 - e).toNat = 1 by omega]
        congr 1
        rw [show tenPow 1 = 10 from rfl]
        omega
      exact (ih (c / 10) (e + 1)).trans hshift
    · rfl

lemma shifted_le (h₁ : 0 < c₁) {shift : Int} (hshift : digitCount c₂ - digitCount c₁ ≤ shift - 1) :
    c₂ * tenPow (-shift).toNat ≤ c₁ * tenPow shift.toNat := by
  have hdigits := digitCount_pos c₁
  calc c₂ * tenPow (-shift).toNat ≤ 10 ^ (digitCount c₂ + (-shift).toNat) := by
        rw [pow_add]
        exact Nat.mul_le_mul_right _ (lt_pow_digitCount c₂).le
    _ ≤ 10 ^ (digitCount c₁ - 1 + shift.toNat) := Nat.pow_le_pow_right (by omega) (by omega)
    _ ≤ c₁ * tenPow shift.toNat := by
        rw [pow_add]
        exact Nat.mul_le_mul_right _ (pow_le_of_digitCount h₁)

lemma shifted_ratio (h₂ : 0 < c₂) (shift : Int) :
    ((c₁ * tenPow shift.toNat : Nat) : ℚ) / (c₂ * tenPow (-shift).toNat : Nat) * 10 ^ (e₁ - e₂ - shift) =
      magnitude c₁ e₁ / magnitude c₂ e₂ := by
  have hpow : (10 : ℚ) ^ shift.toNat = 10 ^ shift * 10 ^ (-shift).toNat := by
    rw [← zpow_natCast, ← zpow_natCast, ← zpow_add₀ (by norm_num)]
    congr 1
    omega
  have hc₂ : (c₂ : ℚ) ≠ 0 := by exact_mod_cast h₂.ne'
  rw [Nat.cast_mul, Nat.cast_mul, tenPow_cast, tenPow_cast, hpow, zpow_sub₀ (by norm_num),
    zpow_sub₀ (by norm_num)]
  unfold magnitude
  field_simp

lemma quotientDigits_le (h₁ : 0 < c₁) (h₂ : 0 < c₂) :
    let r := quotientDigits c₁ e₁ c₂ e₂
    magnitude r.1 r.2 ≤ 2 * (magnitude c₁ e₁ / magnitude c₂ e₂) := by
  unfold quotientDigits
  dsimp only
  generalize hshift : (digitCount c₂ : Int) - digitCount c₁ + precision + 1 = shift
  have hle := shifted_le h₁ (by unfold precision at hshift; omega : digitCount c₂ - digitCount c₁ ≤ shift - 1)
  have hdpos : 0 < c₂ * tenPow (-shift).toNat := Nat.mul_pos h₂ (Nat.pow_pos (by omega))
  rw [← shifted_ratio h₂ shift]
  generalize c₁ * tenPow shift.toNat = n at *
  generalize c₂ * tenPow (-shift).toNat = d at *
  have hone : 1 ≤ n / d := (Nat.one_le_div_iff hdpos).mpr hle
  have hbound (k : Nat) (hk : k ≤ n / d + 1) :
      magnitude k (e₁ - e₂ - shift) ≤ 2 * ((n : ℚ) / d * 10 ^ (e₁ - e₂ - shift)) := by
    have hk' : (k : ℚ) ≤ 2 * (n / d) := by
      have hfloor : ((n / d : Nat) : ℚ) ≤ n / d := Nat.cast_div_le
      have hcast : (k : ℚ) ≤ 2 * (n / d : Nat) := by exact_mod_cast (by omega : k ≤ 2 * (n / d))
      linarith
    rw [← mul_assoc]
    exact mul_le_mul_of_nonneg_right hk' (by positivity)
  split_ifs
  · exact (stripZeros_magnitude _ _ _ _).trans_le (hbound _ (by omega))
  · exact hbound _ le_rfl
  · exact hbound _ (by omega)

lemma div_isOk (s t : Bool) (h₁ : 0 < c₁) (h₂ : 0 < c₂) {y : ℚ} (hy : Short y) (hlt : y < 10 ^ (100 : Int))
    (h : 2 * (magnitude c₁ e₁ / magnitude c₂ e₂) ≤ y) :
    ∃ c e, div (finite s c₁ e₁) (finite t c₂ e₂) = .ok (finite (s != t) c e) ∧ magnitude c e ≤ y := by
  have hdigits : magnitude (quotientDigits c₁ e₁ c₂ e₂).1 (quotientDigits c₁ e₁ c₂ e₂).2 ≤ y :=
    (quotientDigits_le h₁ h₂).trans h
  obtain ⟨r, hfit⟩ := fit_isOk (s != t) (hdigits.trans_lt hlt)
  obtain ⟨c, e, rfl, hrounds⟩ := fit_rounds hfit
  refine ⟨c, e, ?_, hrounds.high y hy hdigits⟩
  unfold div
  simp only [if_neg h₁.ne', if_neg h₂.ne']
  exact hfit

end Operations

end Assessment.Number.Decimal
