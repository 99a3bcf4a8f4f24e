import Assessment.Time.Calendar
import Mathlib.Tactic

/-!
# Days by their numbers

The days of the calendar are numbered without a gap: the day with a number is one that the calendar has, and its
number is that one.
-/

namespace Assessment.Time

section Years

lemma daysBeforeYear_le (n : Nat) : daysBeforeYear (n * 400 / 146097) ≤ n := by
  unfold daysBeforeYear
  omega

lemma lt_daysBeforeYear (n : Nat) : n < daysBeforeYear (n * 400 / 146097 + 2) := by
  unfold daysBeforeYear
  omega

lemma daysBeforeMonth_succ (year : Nat) {m : Nat} (hm : 1 ≤ m) :
    daysBeforeMonth year (m + 1) = daysBeforeMonth year m + daysInMonth year m := by
  obtain ⟨k, rfl⟩ := Nat.exists_eq_add_of_le' hm
  rfl

lemma isLeap_iff {y : Nat} : isLeap y = true ↔ 4 ∣ y ∧ (¬100 ∣ y ∨ 400 ∣ y) := by
  simp [isLeap, Nat.dvd_iff_mod_eq_zero]

lemma daysBeforeYear_add_one (y : Nat) :
    daysBeforeYear (y + 1) = daysBeforeYear y + 365 + if isLeap (y + 1) then 1 else 0 := by
  have hcentury : 100 ∣ y + 1 → 4 ∣ y + 1 := (dvd_trans (by norm_num) ·)
  have hcycle : 400 ∣ y + 1 → 100 ∣ y + 1 := (dvd_trans (by norm_num) ·)
  have hless : y / 100 ≤ y / 4 := Nat.div_le_div_left (by norm_num) (by norm_num)
  unfold daysBeforeYear
  rw [Nat.succ_div, Nat.succ_div, Nat.succ_div]
  simp only [isLeap_iff]
  generalize y / 4 = a, y / 100 = b, y / 400 = c at *
  split_ifs <;> omega

lemma daysBeforeYear_succ (y : Nat) :
    daysBeforeYear (y + 1) = daysBeforeYear y + daysBeforeMonth (y + 1) 13 := by
  have hmonths : daysBeforeMonth (y + 1) 13 = 365 + if isLeap (y + 1) then 1 else 0 := by
    cases hleap : isLeap (y + 1) <;> simp [daysBeforeMonth, daysInMonth, hleap]
  rw [hmonths, daysBeforeYear_add_one, Nat.add_assoc]

end Years

/-- A month that the search starts from is left for a later one only if that one begins at the day at the latest. -/
lemma monthOf_spec (year left m n : Nat) (hm : 1 ≤ m)
    (h : daysBeforeMonth year m + n < daysBeforeMonth year (m + left + 1)) :
    let (month, day) := monthOf year left m n
    m ≤ month ∧ month ≤ m + left ∧ 1 ≤ day ∧ day ≤ daysInMonth year month ∧
      daysBeforeMonth year month + (day - 1) = daysBeforeMonth year m + n := by
  induction left generalizing m n with
  | zero =>
    rw [Nat.add_zero, daysBeforeMonth_succ year hm] at h
    simp only [monthOf]
    omega
  | succ left ih =>
    have hnext := daysBeforeMonth_succ year hm
    unfold monthOf
    split_ifs with hn
    · dsimp only
      omega
    · have hrest := ih (m + 1) (n - daysInMonth year m) (by omega) (by
        rw [Nat.add_right_comm m 1 left, hnext, Nat.add_assoc m left 1]
        omega)
      dsimp only at hrest ⊢
      omega

section Days

/-- A day of the calendar, but for the last year, and the number that it has. -/
structure Date.HasNumber (d : Date) (n : Nat) : Prop where
  year : 1 ≤ d.year
  begun : daysBeforeYear (d.year - 1) ≤ n
  month : 1 ≤ d.month ∧ d.month ≤ 12
  day : 1 ≤ d.day ∧ d.day ≤ daysInMonth d.year d.month
  number : d.number = n

lemma hasNumber_ofNumber (n : Nat) : (Date.ofNumber n).HasNumber n := by
  -- the cycle of 400 years gives the year of the day, or the year before it
  have hlow := daysBeforeYear_le n
  have hhigh := lt_daysBeforeYear n
  unfold Date.ofNumber
  generalize n * 400 / 146097 = q at *
  obtain ⟨y, hy, hbegun, hended⟩ : ∃ y, (if daysBeforeYear (q + 1) ≤ n then q + 1 else q) = y ∧
      daysBeforeYear y ≤ n ∧ n < daysBeforeYear (y + 1) := by
    split_ifs with h
    · exact ⟨_, rfl, h, hhigh⟩
    · exact ⟨_, rfl, hlow, not_le.mp h⟩
  dsimp only
  rw [hy]
  rw [daysBeforeYear_succ] at hended
  have hmonth := monthOf_spec (y + 1) 11 1 (n - daysBeforeYear y) le_rfl (by
    change 0 + (n - daysBeforeYear y) < daysBeforeMonth (y + 1) 13
    omega)
  generalize monthOf (y + 1) 11 1 (n - daysBeforeYear y) = p at hmonth ⊢
  obtain ⟨month, day⟩ := p
  have hfirst : daysBeforeMonth (y + 1) 1 = 0 := rfl
  dsimp only at hmonth ⊢
  rw [hfirst] at hmonth
  constructor <;> simp only [Date.number, Nat.add_sub_cancel] <;> omega

lemma number_ofNumber (n : Nat) : (Date.ofNumber n).number = n := (hasNumber_ofNumber n).number

lemma isValid_ofNumber {n : Nat} (h : n < dayCount) : (Date.ofNumber n).isValid = true := by
  obtain ⟨hyear, hbegun, hmonth, hday, -⟩ := hasNumber_ofNumber n
  have hlimit : (Date.ofNumber n).year ≤ 9999 := by
    unfold daysBeforeYear at hbegun
    unfold dayCount at h
    omega
  simp [Date.isValid, hyear, hlimit, hmonth, hday]

end Days

end Assessment.Time
