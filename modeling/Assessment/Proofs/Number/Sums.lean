import Assessment.Proofs.Number.Amounts
import Assessment.Quiz.Grading

/-!
# Sums of hundredths

Hundredths are added without rounding as long as their sum has at most 28 digits, and a sum of less than
`2 ^ 52` of them is also stored as it is.
-/

namespace Assessment

open Number

namespace Number.Decimal

lemma fit_hundredths {c : Nat} (h : c < 10 ^ 28) : fit false c (-2) = .ok (finite false c (-2)) := by
  have hdigits : digitCount c ≤ 28 := (digitCount_le_iff (by omega)).mpr h
  unfold fit
  by_cases hc : c = 0
  · rw [if_pos hc, hc]
    rfl
  · have htop : ¬maxExponent - precision + 1 < -2 + (digitCount c : Int) - precision := by
      unfold maxExponent precision
      omega
    have hfloor : ¬(-2 : Int) < max (-2 + (digitCount c : Int) - precision) tiniestExponent := by
      unfold tiniestExponent maxExponent precision
      omega
    rw [if_neg hc]
    dsimp only
    rw [if_neg htop, if_neg hfloor]

lemma addZero_hundredths {e : Int} (he : -2 ≤ e) {c : Nat} (h : c < 10 ^ 28) :
    addZero e false c (-2) = .ok (finite false c (-2)) := by
  have htarget : max (min e (-2)) (-2 - precision - 1) = (-2 : Int) := by
    unfold precision
    omega
  unfold addZero
  dsimp only
  rw [htarget]
  simpa [tenPow] using fit_hundredths h

lemma align_hundredths (c d : Nat) : align c (-2) d (-2) = (c, d, -2) := by
  have hd := digitCount_pos d
  have hnear : ¬(-2 + (digitCount d : Int) - 1 < -2 + min (-1) ((digitCount c : Int) - precision - 2)) := by
    omega
  simp [align, hnear, tenPow]

lemma add_hundredths {a m : Nat} {e : Int} (he : e = -2 ∨ a = 0 ∧ e = 0) (h : a + m < 10 ^ 28) :
    add (finite false a e) (finite false m (-2)) = .ok (finite false (a + m) (-2)) := by
  have hm : m < 10 ^ 28 := by omega
  have ha : a < 10 ^ 28 := by omega
  have hlow : -2 ≤ e := by omega
  by_cases ha0 : a = 0
  · by_cases hm0 : m = 0
    · have hmin : min e (-2) = -2 := by omega
      simpa [add, ha0, hm0, hmin] using fit_hundredths (c := 0) (by norm_num)
    · simpa [add, ha0, hm0] using addZero_hundredths hlow hm
  · obtain rfl : e = -2 := by omega
    by_cases hm0 : m = 0
    · simpa [add, ha0, hm0] using addZero_hundredths le_rfl ha
    · simpa [add, ha0, hm0, align_hundredths] using fit_hundredths h

end Number.Decimal

namespace Quiz

open Decimal

lemma sum_hundredths {cs : List Nat} (h : cs.sum < 10 ^ 28) :
    ∃ e, sum (cs.map (finite false · (-2))) = .ok (finite false cs.sum e) ∧
      (e = -2 ∨ cs.sum = 0 ∧ e = 0) := by
  induction cs using List.reverseRecOn with
  | nil => exact ⟨0, rfl, .inr ⟨rfl, rfl⟩⟩
  | append_singleton cs c ih =>
    rw [List.sum_append, List.sum_singleton] at h ⊢
    obtain ⟨e, hsum, he⟩ := ih (by omega)
    refine ⟨-2, ?_, .inl rfl⟩
    unfold sum at hsum ⊢
    rw [List.map_append, List.map_singleton, List.foldlM_append, hsum]
    simp [bind, Except.bind, add_hundredths he h]

end Quiz

namespace Number.Decimal

/-- The coefficient of a decimal. -/
def coefficient : Decimal → Nat
  | finite _ c _ => c
  | _ => 0

lemma magnitude_sum (cs : List Nat) (e : Int) :
    magnitude cs.sum e = (cs.map (magnitude · e)).sum := by
  induction cs with
  | nil => simp
  | cons c cs ih =>
    rw [List.sum_cons, List.map_cons, List.sum_cons, ← ih]
    unfold magnitude
    push_cast
    ring

end Number.Decimal

namespace Amount

open Decimal

lemma toDecimal_sum {cs : List Nat} (h : cs.sum < 2 ^ 52) {d : Decimal}
    (hd : Quiz.sum (cs.map (finite false · (-2))) = .ok d) :
    (ofDecimal? d).map toDecimal = some (finite false cs.sum (-2)) := by
  obtain ⟨e, hsum, he⟩ := Quiz.sum_hundredths (h.trans (by norm_num))
  obtain rfl : finite false cs.sum e = d := Except.ok.inj (hsum.symm.trans hd)
  by_cases hzero : cs.sum = 0
  · rw [hzero]
    exact toDecimal_ofDecimal?_zero false e
  · obtain rfl : e = -2 := by omega
    exact toDecimal_ofDecimal? (Nat.pos_of_ne_zero hzero) h false

/-- At most 99999 hundredths, which is what an amount of three digits and two places can be. -/
def Fitting (d : Decimal) : Prop := ∃ n ≤ 99999, d = finite false n (-2)

lemma Fitting.value_nonneg {d : Decimal} (h : Fitting d) : 0 ≤ d.value := by
  obtain ⟨n, -, rfl⟩ := h
  exact magnitude_nonneg n (-2)

/-- The sum of at most `10 ^ 10` such amounts is stored without a loss. -/
lemma sum_stored {ds : List Decimal} (h : ∀ d ∈ ds, Fitting d) (few : ds.length ≤ 10 ^ 10) {total : Decimal}
    (hsum : Quiz.sum ds = .ok total) :
    ∃ a, ofDecimal? total = some a ∧ total.sameValue a.toDecimal = true ∧
      a.toDecimal.value = (ds.map value).sum := by
  have hds : ds = (ds.map coefficient).map (finite false · (-2)) := by
    conv_lhs => rw [← List.map_id ds]
    rw [List.map_map]
    refine List.map_congr_left fun d hd => ?_
    obtain ⟨n, -, rfl⟩ := h d hd
    rfl
  have hbound : (ds.map coefficient).sum ≤ ds.length • 99999 := by
    rw [← List.length_map (f := coefficient)]
    refine List.sum_le_card_nsmul _ _ fun c hc => ?_
    obtain ⟨d, hd, rfl⟩ := List.mem_map.mp hc
    obtain ⟨n, hn, rfl⟩ := h d hd
    exact hn
  have hsmall : (ds.map coefficient).sum < 2 ^ 52 := by
    rw [smul_eq_mul] at hbound
    omega
  rw [hds] at hsum
  obtain ⟨a, ha, hread⟩ := Option.map_eq_some_iff.mp (toDecimal_sum hsmall hsum)
  refine ⟨a, ha, ?_, ?_⟩
  · obtain ⟨e, htotal, he⟩ := Quiz.sum_hundredths (hsmall.trans (by norm_num))
    obtain rfl := Except.ok.inj (htotal.symm.trans hsum)
    rw [hread, sameValue_finite]
    rcases he with rfl | ⟨hzero, -⟩
    · rfl
    · simp [hzero, value_finite]
  · rw [hread, value_finite, if_neg Bool.false_ne_true, magnitude_sum, List.map_map]
    refine congrArg List.sum (List.map_congr_left fun d hd => ?_)
    obtain ⟨n, -, rfl⟩ := h d hd
    rfl

end Amount

end Assessment
