import Assessment.Proofs.Gradebook.Scaling
import Assessment.Proofs.Quiz.Questions

/-!
# Scores of attempts can be projected

The points of every question were hundredths of at most 28 digits when they were stored. A score is a sum of
the points of some questions of a quiz, which are fewer than the numbers that tables work on, and what was
to be had is no less than the points of any of them. So their quotient is small enough to be projected onto
the scale of an item, however large the points are.
-/

namespace Assessment

open Number Decimal

lemma length_le_of_nodup {ns : List Int} (distinct : ns.Nodup) {a b : Int}
    (range : ∀ n ∈ ns, a ≤ n ∧ n < b) : ns.length ≤ (b - a).toNat := by
  rw [← List.toFinset_card_of_nodup distinct, ← Int.card_Ico]
  exact Finset.card_le_card fun n hn => Finset.mem_Ico.mpr (range n (List.mem_toFinset.mp hn))

lemma isStorable_iff {n : Int} : isStorable n = true ↔ -(2 ^ 63) ≤ n ∧ n < 2 ^ 63 := by
  have htwo : (twoPow 63 : Int) = 2 ^ 63 := by simp [twoPow]
  rw [isStorable, htwo, Bool.and_eq_true, decide_eq_true_eq, decide_eq_true_eq]

lemma length_le_of_storable {ns : List Int} (distinct : ns.Nodup)
    (storable : ∀ n ∈ ns, isStorable n = true) : ns.length ≤ 2 ^ 64 := by
  have := length_le_of_nodup distinct fun n hn => isStorable_iff.mp (storable n hn)
  omega

namespace Number.Decimal

/-- A positive number of hundredths with at most 40 digits. -/
def Pointed (d : Decimal) : Prop := ∃ n, 0 < n ∧ n < 10 ^ 40 ∧ d = .finite false n (-2)

lemma Pointed.value_bounds {d : Decimal} (h : d.Pointed) : 1 / 100 ≤ d.value ∧ d.value ≤ 10 ^ (38 : Int) := by
  obtain ⟨n, hpos, hlt, rfl⟩ := h
  have hpos' : (1 : ℚ) ≤ n := by exact_mod_cast hpos
  have hlt' : (n : ℚ) < 10 ^ 40 := by exact_mod_cast hlt
  rw [value_finite, if_neg Bool.false_ne_true, magnitude_hundredths]
  norm_num
  constructor <;> linarith

lemma Pointed.lt_of_powers {d : Decimal} (h : d.Pointed) {x : ℚ} {j : Int} (hx : x < 10 ^ (j + 1))
    (powers : ∀ y, Short y → y ≤ d.value → y ≤ x) : d.value ≤ 10 ^ (j + 1) := by
  obtain ⟨n, hpos, -, rfl⟩ := h
  obtain ⟨hlow, hhigh⟩ := magnitude_bounds hpos (-2)
  have hdigits := digitCount_pos n
  have hshort : Short (10 ^ adjusted n (-2)) := Gradebook.short_zpow (by
    unfold adjusted tiniestExponent maxExponent precision
    omega)
  have hlt : adjusted n (-2) < j + 1 :=
    (zpow_lt_zpow_iff_right₀ (by norm_num : (1 : ℚ) < 10)).mp ((powers _ hshort hlow).trans_lt hx)
  exact hhigh.le.trans (zpow_le_zpow_right₀ (by norm_num) (by omega))

end Number.Decimal

namespace Quiz

open Table

section Points

variable {ctx : Context} {s s' : Store} {op : Service}

lemma CheckedQuestion.Passed.pointed {c : CheckedQuestion} (h : c.Passed) :
    (Quiz.storedPoints c).toDecimal.Pointed := by
  obtain ⟨n, -, hlt, hpoints⟩ := h.points
  obtain ⟨a, ha⟩ := Option.isSome_iff_exists.mp (Amount.ofDecimal?_isSome false n (-2))
  have hstored : Quiz.storedPoints c = a := by rw [Quiz.storedPoints, hpoints, ha, Option.getD_some]
  obtain ⟨k, hpos, hk⟩ := h.storedPoints
  obtain ⟨m, e, rfl, -, hsmall⟩ := Amount.IsStored.double ⟨n, hlt, ha⟩
  rw [hstored] at hk ⊢
  have hread : k = Amount.hundredths m e := by
    rw [Amount.toDecimal_hundredths] at hk
    injection hk with _ hk
    exact hk.symm
  exact ⟨k, hpos, hread ▸ hsmall, hk⟩

lemma pointed_of_step (h : ∀ k ∈ s.questions, k.points.toDecimal.Pointed) (w : Step ctx s op s') :
    ∀ k ∈ s'.questions, k.points.toDecimal.Pointed := by
  cases w with
  | attempt w | book w | opening _ w | posting _ w | queueing _ w =>
    rw [w.frame]
    exact h
  | quiz w =>
    cases w with
    | draft | publish | close => exact h
    | ask _ _ checked =>
      refine List.forall_mem_append.mpr ⟨h, List.forall_mem_singleton.mpr ?_⟩
      exact (checkQuestion_eq_ok checked).pointed
    | @rephrase _ _ _ k _ _ _ _ checked =>
      intro x hx
      obtain ⟨y, hy, rfl⟩ := List.mem_map.mp hx
      by_cases hid : Row.id y = k.id
      · rw [if_pos hid]
        exact (checkQuestion_eq_ok checked).pointed
      · rw [if_neg hid]
        exact h y hy
    | strike =>
      intro x hx
      obtain ⟨y, hy, rfl⟩ := List.mem_map.mp hx
      rw [placed_points]
      exact h y (List.mem_filter.mp hy).1
    | discard => exact fun k hk => h k (List.mem_filter.mp hk).1

end Points

section Grades

variable {key right : List QuestionKey} {b : Breakdown} {c c' : Nat} {e e' : Int}

lemma share_bounds (points : ∀ k ∈ key, k.points.Pointed) (hsubset : right ⊆ key)
    (few : right.length ≤ 2 ^ 64) {k : QuestionKey} (hk : k ∈ right)
    (score : Gradebook.SumRounds (right.map (·.points)) (magnitude c e))
    (total : Gradebook.SumRounds (key.map (·.points)) (magnitude c' e')) :
    1 / 100 ≤ magnitude c e ∧ magnitude c e ≤ 10 ^ (60 : Int) ∧ 1 / 100 ≤ magnitude c' e' ∧
      magnitude c e ≤ 3 * 10 ^ 20 * magnitude c' e' := by
  have hmem {x : QuestionKey} {ks : List QuestionKey} (hx : x ∈ ks) : x.points ∈ ks.map (·.points) :=
    List.mem_map_of_mem hx
  have hone := (points k (hsubset hk)).value_bounds.1
  have hmax : 1 / 100 ≤ magnitude c' e' := total.low _ (hmem (hsubset hk)) _ Gradebook.short_hundredth hone
  have hpos : 0 < c' := Nat.pos_of_ne_zero fun hzero => by
    rw [hzero, magnitude_zero] at hmax
    norm_num at hmax
  obtain ⟨hmaxLow, hmaxHigh⟩ := magnitude_bounds hpos e'
  generalize adjusted c' e' = j at *
  have hj : (-2 : Int) < j + 1 := by
    refine (zpow_lt_zpow_iff_right₀ (by norm_num : (1 : ℚ) < 10)).mp (lt_of_le_of_lt ?_ hmaxHigh)
    exact (le_of_eq (by norm_num)).trans hmax
  have hcount : (right.length : ℚ) ≤ 2 ^ 64 := by exact_mod_cast few
  have hbound {i : Int} (hi : tiniestExponent ≤ i) (hle : ∀ k ∈ right, k.points.value ≤ 10 ^ i) :
      magnitude c e ≤ 2 ^ 64 * 10 ^ i := by
    have hall : ∀ d ∈ right.map (·.points), d.value ≤ 10 ^ i := by
      intro d hd
      obtain ⟨x, hx, rfl⟩ := List.mem_map.mp hd
      exact hle x hx
    have hsum := score.high i hi hall (by rw [List.length_map, precision]; omega)
    rw [List.length_map] at hsum
    exact hsum.trans (mul_le_mul_of_nonneg_right hcount (by positivity))
  refine ⟨score.low _ (hmem hk) _ Gradebook.short_hundredth hone, ?_, hmax, ?_⟩
  · exact (hbound (by decide) fun x hx => (points x (hsubset hx)).value_bounds.2).trans (by norm_num)
  · -- No part has a digit above the first one of the total.
    have hshare := hbound (i := j + 1) (by unfold tiniestExponent maxExponent precision; omega)
      fun x hx => (points x (hsubset hx)).lt_of_powers hmaxHigh (total.low _ (hmem (hsubset hx)))
    rw [zpow_add_one₀ (by norm_num)] at hshare
    linarith

/-- What was graded is projected onto the scale of an item once it is stored. -/
lemma Breakdown.Fits.scales (h : b.Fits key) (points : ∀ k ∈ key, k.points.Pointed)
    (storable : ∀ g ∈ b.graded, isStorable g.question = true) {n : Nat} (hn : n ≤ 999999) :
    ∃ d, Gradebook.scale ((Amount.ofDecimal? b.score).map Amount.toDecimal)
      ((Amount.ofDecimal? b.maxScore).map Amount.toDecimal) (.finite false n (-2)) = .ok d := by
  obtain ⟨right, hsubset, hscore, hperm⟩ := h.score
  have hundredths {ks : List QuestionKey} (hks : ks ⊆ key) :
      ∀ d ∈ ks.map (·.points), ∃ n, d = .finite false n (-2) := by
    intro d hd
    obtain ⟨k, hk, rfl⟩ := List.mem_map.mp hd
    obtain ⟨n, -, -, hpoints⟩ := points k (hks hk)
    exact ⟨n, hpoints⟩
  obtain ⟨c, e, hc, score⟩ := Gradebook.sum_rounds (hundredths hsubset) hscore
  obtain ⟨c', e', hc', total⟩ := Gradebook.sum_rounds (hundredths (List.Subset.refl key)) h.maxScore
  rw [hc, hc']
  refine Gradebook.scale_stored ?_ hn
  have few : right.length ≤ 2 ^ 64 := by
    have hmap : (right.map (·.question)).length = right.length := List.length_map _
    rw [← hmap]
    refine length_le_of_storable (hperm.nodup_iff.mpr (h.distinct.sublist (List.filter_sublist.map _)))
      fun q hq => ?_
    obtain ⟨g, hg, rfl⟩ := List.mem_map.mp (hperm.mem_iff.mp hq)
    exact storable g (List.mem_filter.mp hg).1
  rcases right with _ | ⟨k, rest⟩
  · have hzero : Decimal.zero = .finite false c e := Except.ok.inj (hscore.trans (congrArg _ hc))
    injection hzero with _ hzero
    exact .inl hzero.symm
  · exact .inr (share_bounds points hsubset few (List.mem_cons_self ..) score total)

end Grades

end Quiz

end Assessment
