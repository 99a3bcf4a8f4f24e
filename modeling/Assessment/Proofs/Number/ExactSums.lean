import Assessment.Proofs.Number.Hundredths
import Assessment.Proofs.Number.Rounded
import Assessment.Quiz.Grading

/-!
# Sums that are not rounded

Hundredths whose sum is below `10 ^ 26` are added without rounding, in whatever form each is written. The
exponent of the sum is the least one of all, or the one that 28 digits leave room for, so that the order in
which they are added does not matter at all.
-/

namespace Assessment

open Number Decimal

namespace Number.Decimal

variable {c : Nat} {e : Int}

lemma unit_of_hundredths {x : ℚ} {n : Nat} (hn : 0 < n) (hx : x = n / 100) (lt : x < 10 ^ 26) :
    unit x = Int.log 10 x - 27 ∧ -29 ≤ unit x ∧ unit x ≤ -2 := by
  have hn' : (1 : ℚ) ≤ n := by exact_mod_cast hn
  have hpos : 0 < x := by rw [hx]; positivity
  obtain ⟨hlow, hhigh⟩ := log_bounds hpos
  have hlt : Int.log 10 x < 26 := by
    refine (zpow_lt_zpow_iff_right₀ (by norm_num : (1 : ℚ) < 10)).mp (hlow.trans_lt ?_)
    exact_mod_cast lt
  have hge : -2 < Int.log 10 x + 1 := by
    refine (zpow_lt_zpow_iff_right₀ (by norm_num : (1 : ℚ) < 10)).mp (lt_of_le_of_lt ?_ hhigh)
    rw [hx]
    norm_num
    linarith
  unfold unit tiniestExponent maxExponent precision
  omega

lemma unit_mono {x y : ℚ} (hx : 0 < x) (h : x ≤ y) : unit x ≤ unit y := by
  have hlog := Int.log_mono_right (b := 10) hx h
  unfold unit
  omega

lemma fit_exact {n : Nat} (s : Bool) (hn : 0 < n) (hvalue : magnitude c e = n / 100)
    (lt : magnitude c e < 10 ^ 26) :
    ∃ k, fit s c e = .ok (.finite s k (max e (unit (magnitude c e)))) ∧
      magnitude k (max e (unit (magnitude c e))) = magnitude c e := by
  obtain ⟨hlog, hlow, hhigh⟩ := unit_of_hundredths hn hvalue lt
  have hpos : 0 < magnitude c e := by
    rw [hvalue]
    positivity
  have hc : 0 < c := by
    refine Nat.pos_of_ne_zero fun hzero => ?_
    rw [hzero, magnitude_zero] at hpos
    exact hpos.false
  have hunit := unit_magnitude hc e
  have htop : ¬maxExponent - precision + 1 < e + digitCount c - precision := by
    unfold maxExponent precision at *
    omega
  unfold fit
  simp only [if_neg hc.ne', if_neg htop, ← hunit]
  by_cases hfine : e < unit (magnitude c e)
  · have hexact : magnitude c e =
        magnitude (n * tenPow (-2 - unit (magnitude c e)).toNat) (unit (magnitude c e)) := by
      rw [← magnitude_shift n hhigh, magnitude_hundredths]
      exact hvalue
    have hupper := (log_bounds hpos).2
    generalize unit (magnitude c e) = u at *
    generalize n * tenPow (-2 - u).toNat = m at *
    have hm : m < 10 ^ precision := by
      rw [← not_le, ← magnitude_le_magnitude (g := u), ← hexact, magnitude_pow, not_le]
      refine hupper.trans_le (zpow_le_zpow_right₀ (by norm_num) ?_)
      unfold precision
      push_cast
      omega
    have hdigits : ¬precision < digitCount m :=
      not_lt.mpr ((digitCount_le_iff (by unfold precision; omega)).mpr hm)
    have hquotient : Rounding.halfEven.quotient c (tenPow (u - e).toNat) = m := by
      rw [← nearest_magnitude c hfine.le, hexact, magnitude, mul_div_cancel_right₀ _ (by positivity),
        Rounding.nearest_natCast]
    have hroom : ¬maxExponent - precision + 1 < u := by
      unfold maxExponent precision
      omega
    rw [if_pos hfine, dropPlaces_eq, hquotient, max_eq_right hfine.le]
    simp only [if_neg hdigits, if_neg hroom]
    exact ⟨m, rfl, hexact.symm⟩
  · rw [if_neg hfine, max_eq_left (not_lt.mp hfine)]
    exact ⟨c, rfl, rfl⟩

/-- The exponent that a decimal is written with. -/
def exponent : Decimal → Int
  | finite _ _ e => e
  | _ => 0

@[simp]
lemma exponent_finite (s : Bool) (c : Nat) (e : Int) : (finite s c e).exponent = e := rfl

/-- The exponent of a sum of hundredths, from its value and the least exponent of its parts. -/
def sumExponent (total : ℚ) (least : Int) : Int :=
  if total = 0 then max least tiniestExponent else max least (unit total)

/-- A sum of hundredths that was not rounded. -/
structure Sums (total : ℚ) (least : Int) (d : Decimal) : Prop where
  form : ∃ c, d = .finite false c (sumExponent total least)
  value : d.value = total

lemma Sums.unique {total : ℚ} {least : Int} {d d' : Decimal} (h : Sums total least d)
    (h' : Sums total least d') : d = d' := by
  obtain ⟨c, rfl⟩ := h.form
  obtain ⟨c', rfl⟩ := h'.form
  have hvalue : magnitude c _ = magnitude c' _ := h.value.trans h'.value.symm
  rw [le_antisymm (magnitude_le_magnitude.mp hvalue.le) (magnitude_le_magnitude.mp hvalue.ge)]

lemma fit_sums {n : Nat} (hn : 0 < n) (hvalue : magnitude c e = n / 100) (lt : magnitude c e < 10 ^ 26)
    {least : Int}
    (hleast : max e (unit (magnitude c e)) = max least (unit (magnitude c e))) :
    ∃ d, fit false c e = .ok d ∧ Sums (magnitude c e) least d := by
  obtain ⟨k, hfit, hk⟩ := fit_exact false hn hvalue lt
  have hne : magnitude c e ≠ 0 := by
    rw [hvalue]
    positivity
  refine ⟨_, hfit, ⟨k, ?_⟩, hk⟩
  rw [sumExponent, if_neg hne, hleast]

section Addition

variable {c₁ c₂ n₁ n₂ : Nat} {e₁ e₂ least : Int}

lemma adjusted_of_hundredths (hn : 0 < n₁) (hvalue : magnitude c₁ e₁ = n₁ / 100)
    (lt : magnitude c₁ e₁ < 10 ^ 26) :
    0 < c₁ ∧ adjusted c₁ e₁ = unit (magnitude c₁ e₁) + 27 ∧ -29 ≤ unit (magnitude c₁ e₁) ∧
      unit (magnitude c₁ e₁) ≤ -2 := by
  obtain ⟨hlog, hbounds⟩ := unit_of_hundredths hn hvalue lt
  have hc : 0 < c₁ := by
    refine Nat.pos_of_ne_zero fun hzero => ?_
    rw [hzero, magnitude_zero] at hvalue
    have : (0 : ℚ) < n₁ / 100 := by positivity
    linarith
  refine ⟨hc, ?_, hbounds⟩
  rw [hlog, log_magnitude hc]
  omega

variable (c₁ c₂ e₁ e₂) in
lemma align_near (h : adjusted c₁ e₁ ≤ adjusted c₂ e₂ + 28) (h' : adjusted c₂ e₂ ≤ adjusted c₁ e₁ + 28) :
    let r := align c₁ e₁ c₂ e₂
    magnitude (r.1 + r.2.1) r.2.2 = magnitude c₁ e₁ + magnitude c₂ e₂ ∧ r.2.2 = min e₁ e₂ := by
  unfold adjusted at h h'
  have hadd (a b : Nat) (e : Int) : magnitude (a + b) e = magnitude a e + magnitude b e := by
    unfold magnitude
    push_cast
    ring
  unfold align
  by_cases hlt : e₁ < e₂
  · have hnear : ¬e₁ + (digitCount c₁ : Int) - 1 < e₂ + min (-1) ((digitCount c₂ : Int) - precision - 2) := by
      unfold precision
      omega
    simp only [if_pos hlt, if_neg hnear, if_true, hadd, min_eq_left hlt.le, ← magnitude_shift c₂ hlt.le,
      and_self]
  · have hnear : ¬e₂ + (digitCount c₂ : Int) - 1 < e₁ + min (-1) ((digitCount c₁ : Int) - precision - 2) := by
      unfold precision
      omega
    have hle := not_lt.mp hlt
    simp only [if_neg hlt, if_neg hnear, Bool.false_eq_true, if_false, hadd, min_eq_right hle,
      ← magnitude_shift c₁ hle, and_self]

lemma addZero_sums (hn : 0 < n₁) (hvalue : magnitude c₁ e₁ = n₁ / 100) (lt : magnitude c₁ e₁ < 10 ^ 26)
    (zeroExponent least : Int)
    (hleast : max (min zeroExponent e₁) (unit (magnitude c₁ e₁)) = max least (unit (magnitude c₁ e₁))) :
    ∃ d, addZero zeroExponent false c₁ e₁ = .ok d ∧ Sums (magnitude c₁ e₁) least d := by
  obtain ⟨hc, hadjusted, hlow, hhigh⟩ := adjusted_of_hundredths hn hvalue lt
  have hdigits := digitCount_pos c₁
  unfold addZero
  dsimp only
  have htarget : max (min zeroExponent e₁) (e₁ - precision - 1) ≤ e₁ := by
    unfold precision
    omega
  have hshift := magnitude_shift c₁ htarget
  rw [hshift] at hvalue lt hleast hadjusted ⊢
  refine fit_sums hn hvalue lt ?_
  unfold adjusted precision at *
  omega

lemma exists_of_isZero {d : Decimal} (h : d.isZero = true) : ∃ s e, d = .finite s 0 e := by
  cases d with
  | nan | infinite => cases h
  | finite s c e => exact ⟨s, e, by rw [beq_iff_eq.mp h]⟩

lemma Sums.eq_zero {d : Decimal} (h : Sums 0 least d) : d = .finite false 0 (max least tiniestExponent) := by
  obtain ⟨c, rfl⟩ := h.form
  obtain rfl : c = 0 := by
    by_contra hc
    exact (magnitude_pos (Nat.pos_of_ne_zero hc) _).ne' h.value
  rw [sumExponent, if_pos rfl]

lemma Sums.eq_of_pos {d : Decimal} (hn : 0 < n₁) (h : Sums (n₁ / 100) least d) :
    ∃ c, d = .finite false c (max least (unit (n₁ / 100))) ∧
      magnitude c (max least (unit (n₁ / 100))) = n₁ / 100 := by
  obtain ⟨c, rfl⟩ := h.form
  have hne : (n₁ / 100 : ℚ) ≠ 0 := by positivity
  have hexponent : sumExponent (n₁ / 100) least = max least (unit (n₁ / 100)) := if_neg hne
  rw [hexponent] at h ⊢
  exact ⟨c, rfl, h.value⟩

variable {d d' : Decimal}

lemma Sums.add_zeros (h : Sums 0 least d) (hleast : least ≤ 0) (hd' : d'.isZero = true) :
    ∃ r, d.add d' = .ok r ∧ Sums 0 (min least d'.exponent) r := by
  obtain rfl := h.eq_zero
  obtain ⟨s, e, rfl⟩ := exists_of_isZero hd'
  refine ⟨_, rfl, ⟨0, ?_⟩, by simp [value_finite]⟩
  rw [sumExponent, if_pos rfl, Bool.false_and, exponent_finite]
  congr 1
  unfold tiniestExponent maxExponent precision
  omega

lemma Sums.add_zero (hn : 0 < n₁) (h : Sums (n₁ / 100) least d) (lt : (n₁ / 100 : ℚ) < 10 ^ 26)
    (hd' : d'.isZero = true) : ∃ r, d.add d' = .ok r ∧ Sums (n₁ / 100) (min least d'.exponent) r := by
  obtain ⟨c, rfl, hvalue⟩ := h.eq_of_pos hn
  obtain ⟨s, e, rfl⟩ := exists_of_isZero hd'
  rw [← hvalue] at lt
  obtain ⟨hc, -⟩ := adjusted_of_hundredths hn hvalue lt
  obtain ⟨r, hr, hsums⟩ := addZero_sums hn hvalue lt e (min least e) (by rw [hvalue]; omega)
  refine ⟨r, ?_, hvalue ▸ hsums⟩
  unfold Decimal.add
  simp only [if_neg hc.ne', if_true]
  exact hr

lemma Sums.zero_add (h : Sums 0 least d) (hn : 0 < n₂) (hd' : d'.IsHundredths n₂)
    (lt : (n₂ / 100 : ℚ) < 10 ^ 26) :
    ∃ r, d.add d' = .ok r ∧ Sums (n₂ / 100) (min least d'.exponent) r := by
  obtain rfl := h.eq_zero
  obtain ⟨c, e, hc, rfl, hvalue⟩ := hd'.pos hn
  rw [← hvalue] at lt
  obtain ⟨-, -, hlow, hhigh⟩ := adjusted_of_hundredths hn hvalue lt
  have hleast : max (min (max least tiniestExponent) e) (unit (magnitude c e)) =
      max (min least e) (unit (magnitude c e)) := by
    unfold tiniestExponent maxExponent precision
    omega
  obtain ⟨r, hr, hsums⟩ := addZero_sums hn hvalue lt (max least tiniestExponent) _ hleast
  refine ⟨r, ?_, hvalue ▸ hsums⟩
  unfold Decimal.add
  simp only [if_neg hc.ne', if_true]
  exact hr

lemma Sums.add_pos (hn₁ : 0 < n₁) (h : Sums (n₁ / 100) least d) (hn₂ : 0 < n₂) (hd' : d'.IsHundredths n₂)
    (lt : (n₁ / 100 + n₂ / 100 : ℚ) < 10 ^ 26) :
    ∃ r, d.add d' = .ok r ∧ Sums (n₁ / 100 + n₂ / 100) (min least d'.exponent) r := by
  obtain ⟨c₁, rfl, hvalue₁⟩ := h.eq_of_pos hn₁
  obtain ⟨c₂, e₂, hc₂, rfl, hvalue₂⟩ := hd'.pos hn₂
  have hlt₁ : (n₁ / 100 : ℚ) < 10 ^ 26 := lt_of_le_of_lt (le_add_of_nonneg_right (by positivity)) lt
  have hlt₂ : (n₂ / 100 : ℚ) < 10 ^ 26 := lt_of_le_of_lt (le_add_of_nonneg_left (by positivity)) lt
  rw [← hvalue₁] at hlt₁
  rw [← hvalue₂] at hlt₂
  obtain ⟨hc₁, hadjusted₁, hlow₁, hhigh₁⟩ := adjusted_of_hundredths hn₁ hvalue₁ hlt₁
  obtain ⟨-, hadjusted₂, hlow₂, hhigh₂⟩ := adjusted_of_hundredths hn₂ hvalue₂ hlt₂
  have hsum := align_near c₁ c₂ (max least (unit (n₁ / 100))) e₂ (by omega) (by omega)
  unfold Decimal.add
  simp only [if_neg hc₁.ne', if_neg hc₂.ne', if_true, exponent_finite]
  generalize align _ _ _ _ = aligned at *
  obtain ⟨a, b, f⟩ := aligned
  obtain ⟨hsum, hmin⟩ := hsum
  have htotal : magnitude (a + b) f = n₁ / 100 + n₂ / 100 := hsum.trans (congrArg₂ _ hvalue₁ hvalue₂)
  have hunits : unit (n₁ / 100) ≤ unit (magnitude (a + b) f) := by
    rw [htotal]
    exact unit_mono (by positivity) (le_add_of_nonneg_right (by positivity))
  have hleast : max f (unit (magnitude (a + b) f)) = max (min least e₂) (unit (magnitude (a + b) f)) := by
    change f = _ at hmin
    omega
  obtain ⟨r, hr, hsums⟩ := fit_sums (Nat.add_pos_left hn₁ n₂) (by rw [htotal, Nat.cast_add, add_div])
    (htotal ▸ lt) hleast
  exact ⟨r, hr, htotal ▸ hsums⟩

lemma Sums.add (h : Sums (n₁ / 100) least d) (hleast : least ≤ 0) (hd' : d'.IsHundredths n₂)
    (lt : (n₁ / 100 + n₂ / 100 : ℚ) < 10 ^ 26) :
    ∃ r, d.add d' = .ok r ∧ Sums (n₁ / 100 + n₂ / 100) (min least d'.exponent) r := by
  rcases Nat.eq_zero_or_pos n₁ with rfl | hn₁ <;> rcases Nat.eq_zero_or_pos n₂ with rfl | hn₂
  · simpa using Sums.add_zeros (by simpa using h) hleast hd'.zero
  · simpa using Sums.zero_add (by simpa using h) hn₂ hd' (by simpa using lt)
  · simpa using h.add_zero hn₁ (by simpa using lt) hd'.zero
  · exact h.add_pos hn₁ hn₂ hd' lt

end Addition

end Number.Decimal

namespace Quiz

variable {ds ds' : List Decimal}

lemma exists_total (hds : ∀ d ∈ ds, ∃ n, d.IsHundredths n) : ∃ n : Nat, (ds.map value).sum = n / 100 := by
  induction ds with
  | nil => exact ⟨0, by simp⟩
  | cons d ds ih =>
    obtain ⟨n, -, hn⟩ := hds d (List.mem_cons_self ..)
    obtain ⟨m, hm⟩ := ih fun x hx => hds x (List.mem_cons_of_mem _ hx)
    refine ⟨n + m, ?_⟩
    rw [List.map_cons, List.sum_cons, hn, hm]
    push_cast
    ring

/-- The least exponent of some decimals, and of the zero that a sum starts with. -/
def leastExponent (ds : List Decimal) : Int := (ds.map exponent).foldl min 0

lemma leastExponent_concat (ds : List Decimal) (d : Decimal) :
    leastExponent (ds ++ [d]) = min (leastExponent ds) d.exponent := by
  simp [leastExponent]

lemma leastExponent_nonpos (ds : List Decimal) : leastExponent ds ≤ 0 := by
  induction ds using List.reverseRecOn with
  | nil => exact le_rfl
  | append_singleton ds d ih =>
    rw [leastExponent_concat]
    exact (min_le_left _ _).trans ih

/-- Hundredths are added without rounding, as long as the sum is below `10 ^ 26`. -/
lemma sum_exact (hds : ∀ d ∈ ds, ∃ n, d.IsHundredths n) (lt : (ds.map value).sum < 10 ^ 26) :
    ∃ d, sum ds = .ok d ∧ Sums (ds.map value).sum (leastExponent ds) d := by
  induction ds using List.reverseRecOn with
  | nil =>
    refine ⟨.zero, rfl, ⟨0, ?_⟩, by simp [zero, value_finite]⟩
    simp [zero, sumExponent, leastExponent, tiniestExponent, maxExponent, precision]
  | append_singleton ds d ih =>
    obtain ⟨hfront, hback⟩ := List.forall_mem_append.mp hds
    obtain ⟨n, hn⟩ := hback d (List.mem_singleton_self d)
    obtain ⟨m, hm⟩ := exists_total hfront
    rw [List.map_append, List.map_singleton, List.sum_append, List.sum_singleton, hm, hn.2] at lt ⊢
    have hlt : (ds.map value).sum < 10 ^ 26 := hm ▸ lt_of_le_of_lt (le_add_of_nonneg_right (by positivity)) lt
    obtain ⟨part, hpart, hsums⟩ := ih hfront hlt
    obtain ⟨r, hr, hsums'⟩ := (hm ▸ hsums).add (leastExponent_nonpos ds) hn lt
    refine ⟨r, ?_, leastExponent_concat ds d ▸ hsums'⟩
    unfold sum at hpart ⊢
    rw [List.foldlM_append, hpart]
    simp [bind, Except.bind, hr]

/-- The order in which hundredths are added does not matter. -/
lemma sum_perm (h : ds.Perm ds') (hds : ∀ d ∈ ds, ∃ n, d.IsHundredths n) (lt : (ds.map value).sum < 10 ^ 26) :
    sum ds = sum ds' := by
  have htotal : (ds.map value).sum = (ds'.map value).sum := (h.map value).sum_eq
  have hleast : leastExponent ds = leastExponent ds' := (h.map exponent).foldl_eq 0
  obtain ⟨d, hd, hsums⟩ := sum_exact hds lt
  obtain ⟨d', hd', hsums'⟩ := sum_exact (fun x hx => hds x (h.mem_iff.mpr hx)) (htotal ▸ lt)
  rw [htotal, hleast] at hsums
  rw [hd, hd', hsums.unique hsums']

end Quiz

end Assessment
