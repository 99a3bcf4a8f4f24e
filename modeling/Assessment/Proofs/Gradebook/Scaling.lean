import Assessment.Proofs.Gradebook.Answering
import Assessment.Proofs.Number.Precision
import Assessment.Proofs.Number.Reading

/-!
# Scores that can be projected

A score that is not out of all proportion to the points that were to be had is projected onto the scale of
an item without a defect, whatever was rounded when the two were stored.
-/

namespace Assessment.Gradebook

open Number Decimal

section Projections

variable {c p n : Nat}

lemma project_of_scaled {score maxPoints share : Decimal} {s : Bool} {k : Nat} {g : Int}
    (points : maxPoints.atMost .zero = .ok false) (divided : score.div maxPoints = .ok share)
    (scaled : share.mul (.finite false n (-2)) = .ok (.finite s k g))
    (few : FewDigits (.finite s k g)) (hn : n < 10 ^ 28) :
    ∃ d, project score maxPoints (.finite false n (-2)) = .ok d := by
  obtain ⟨t, m, hrounded⟩ : ∃ t m, (finite s k g).toHundredths .halfUp = .ok (.finite t m (-2)) :=
    toHundredths_isOk rfl few
  obtain ⟨d, hmax⟩ := rounds_hundredths hn false .halfEven
  have hlow : (Decimal.finite t m (-2)).less .zero = .ok _ := less_finite ..
  unfold project
  simp only [points, divided, scaled, hrounded, hmax, hlow, less_finite, bind, Except.bind, pure, Except.pure]
  split_ifs <;> exact ⟨_, rfl⟩

lemma project_isOk (hc : 0 < c) (hp : 0 < p) (share : (c : ℚ) ≤ 10 ^ 21 * p) (hn : n ≤ 999999) :
    ∃ d, project (.finite false c (-2)) (.finite false p (-2)) (.finite false n (-2)) = .ok d := by
  have hpoints : (Decimal.finite false p (-2)).atMost .zero = .ok false := atMost_zero_of_pos hp (-2)
  have hquotient : 2 * (magnitude c (-2) / magnitude p (-2)) ≤ 2 * 10 ^ (21 : Int) := by
    have hpos : (0 : ℚ) < p := by exact_mod_cast hp
    rw [magnitude_hundredths, magnitude_hundredths, div_div_div_cancel_right₀ (by norm_num)]
    have hdiv : (c : ℚ) / p ≤ 10 ^ 21 := (div_le_iff₀ hpos).mpr share
    norm_num at hdiv ⊢
    linarith
  obtain ⟨k, g, hdiv, hle⟩ := div_isOk false false hc hp ⟨2, 21, by decide, by decide, by simp [magnitude]⟩
    (by norm_num) hquotient
  have hn' : (n : ℚ) ≤ 999999 := by exact_mod_cast hn
  have hproduct : magnitude k g * magnitude n (-2) ≤ 2 * 10 ^ (25 : Int) := by
    rw [magnitude_hundredths]
    calc magnitude k g * (n / 100) ≤ 2 * 10 ^ (21 : Int) * (999999 / 100) :=
          mul_le_mul hle (by linarith) (by positivity) (by norm_num)
      _ ≤ 2 * 10 ^ (25 : Int) := by norm_num
  obtain ⟨k', g', hmul, hscaled⟩ := mul_isOk false false ⟨2, 25, by decide, by decide, by simp [magnitude]⟩
    (by norm_num) hproduct
  refine project_of_scaled hpoints hdiv hmul ?_ (by omega)
  rw [FewDigits, abs_value_finite]
  exact hscaled.trans_lt (by norm_num)

lemma project_infinite (c : Nat) (hn : n < 10 ^ 28) :
    ∃ d, project (.finite false c (-2)) (.infinite false) (.finite false n (-2)) = .ok d := by
  have hzero : magnitude 0 tiniestExponent * magnitude n (-2) ≤ 0 := by simp
  obtain ⟨k, g, hmul, hscaled⟩ :=
    mul_isOk false false ⟨0, 0, by decide, by decide, by simp⟩ (by norm_num) hzero
  refine project_of_scaled rfl rfl hmul ?_ hn
  rw [FewDigits, abs_value_finite]
  exact hscaled.trans_lt (by norm_num)

end Projections

section Sums

lemma short_hundredth : Short (1 / 100) := ⟨1, -2, by decide, by decide, by norm_num [magnitude]⟩

lemma short_zpow {j : Int} (h : tiniestExponent ≤ j) : Short (10 ^ j) :=
  ⟨1, j, by decide, h, by simp [magnitude]⟩

/-- However often it is rounded, a sum is at least what is at most one of its parts, and at most their number
times what is at least each of them. -/
structure SumRounds (ds : List Decimal) (r : ℚ) : Prop where
  short : Short r
  low : ∀ d ∈ ds, ∀ y, Short y → y ≤ d.value → y ≤ r
  high : ∀ j, tiniestExponent ≤ j → (∀ d ∈ ds, d.value ≤ 10 ^ j) → ds.length ≤ 10 ^ precision →
    r ≤ ds.length * 10 ^ j

lemma SumRounds.concat {ds : List Decimal} {n : Nat} {r r' : ℚ} (h : SumRounds ds r) (hr : 0 ≤ r)
    (rounds : Rounds (r + magnitude n (-2)) r') : SumRounds (ds ++ [.finite false n (-2)]) r' := by
  refine ⟨rounds.short, fun x hx y hy hle => rounds.low y hy ?_, fun j hj hle hlength => ?_⟩
  · rcases List.mem_append.mp hx with hx | hx
    · exact (h.low x hx y hy hle).trans (le_add_of_nonneg_right (magnitude_nonneg n (-2)))
    · rw [List.mem_singleton.mp hx] at hle
      exact hle.trans (le_add_of_nonneg_left hr)
  · obtain ⟨hle, hlast⟩ := List.forall_mem_append.mp hle
    rw [List.length_append, List.length_singleton] at hlength ⊢
    refine rounds.high _ ⟨ds.length + 1, j, hlength, hj, rfl⟩ ?_
    have hpart := h.high j hj hle (by omega)
    have hlast : magnitude n (-2) ≤ 10 ^ j := hlast _ (List.mem_singleton_self _)
    push_cast
    linarith

lemma sum_rounds {ds : List Decimal} (hds : ∀ d ∈ ds, ∃ n, d = .finite false n (-2)) {t : Decimal}
    (h : Quiz.sum ds = .ok t) : ∃ c e, t = .finite false c e ∧ SumRounds ds (magnitude c e) := by
  induction ds using List.reverseRecOn generalizing t with
  | nil =>
    refine ⟨0, 0, (Except.ok.inj h).symm, ⟨0, 0, by decide, by decide, rfl⟩, by simp, fun j _ _ _ => ?_⟩
    simp
  | append_singleton ds d ih =>
    obtain ⟨hfront, hback⟩ := List.forall_mem_append.mp hds
    obtain ⟨n, rfl⟩ := hback d (List.mem_singleton_self d)
    rw [Quiz.sum, List.foldlM_append, bind_eq_ok] at h
    obtain ⟨part, hpart, h⟩ := h
    simp only [List.foldlM_cons, List.foldlM_nil, bind_pure] at h
    obtain ⟨c, e, rfl, hsum⟩ := ih hfront hpart
    obtain ⟨c', e', rfl, hrounds⟩ := add_rounds h
    exact ⟨c', e', rfl, hsum.concat (magnitude_nonneg c e) hrounds⟩

end Sums

section Stored

variable {c c' n : Nat} {e e' : Int}

lemma scale_stored (score : c = 0 ∨ 1 / 100 ≤ magnitude c e ∧ magnitude c e ≤ 10 ^ (60 : Int) ∧
      1 / 100 ≤ magnitude c' e' ∧ magnitude c e ≤ 3 * 10 ^ 20 * magnitude c' e') (hn : n ≤ 999999) :
    ∃ d, scale ((Amount.ofDecimal? (.finite false c e)).map Amount.toDecimal)
      ((Amount.ofDecimal? (.finite false c' e')).map Amount.toDecimal) (.finite false n (-2)) = .ok d := by
  obtain ⟨b, hb⟩ := Option.isSome_iff_exists.mp (Amount.ofDecimal?_isSome false c' e')
  rcases score with rfl | ⟨hlow, hhigh, hpoints, hshare⟩
  · rw [Amount.toDecimal_ofDecimal?_zero, hb]
    exact ⟨_, rfl⟩
  · have hnormal : (10 : ℚ) ^ (60 : Int) < 2 ^ (1022 : Int) :=
      calc (10 : ℚ) ^ (60 : Int) < 2 ^ (200 : Int) := by norm_num
        _ ≤ 2 ^ (1022 : Int) := zpow_le_zpow_right₀ (by norm_num) (by norm_num)
    obtain ⟨a, k, ha, hk, hklow, hkhigh⟩ := Amount.read_near hlow (hhigh.trans_lt hnormal)
    obtain ⟨b', hb', hread⟩ := Amount.read_large hpoints
    have hkpos : 0 < k := by
      have : (0 : ℚ) < k := by linarith
      exact_mod_cast this
    rw [ha, hb', Option.map_some, Option.map_some, hk]
    rcases hread with hread | ⟨p, hread, hp⟩
    · rw [hread]
      simpa [scale, isZero, hkpos.ne'] using project_infinite k (by omega)
    · have hshare' : (k : ℚ) ≤ 10 ^ 21 * p := by
        rcases hp with hp | hp
        · linarith
        · have hlarge : (2 : ℚ) ^ (200 : Int) ≤ 2 ^ (970 : Int) :=
            zpow_le_zpow_right₀ (by norm_num) (by norm_num)
          generalize (2 : ℚ) ^ (970 : Int) = large at *
          norm_num at hlarge hhigh
          linarith
      have hppos : 0 < p := by
        refine Nat.pos_of_ne_zero fun hzero => ?_
        rw [hzero] at hshare'
        have : (0 : ℚ) < k := by exact_mod_cast hkpos
        norm_num at hshare'
        linarith
      rw [hread]
      simpa [scale, isZero, hkpos.ne', hppos.ne'] using project_isOk hkpos hppos hshare' hn

end Stored

end Assessment.Gradebook
