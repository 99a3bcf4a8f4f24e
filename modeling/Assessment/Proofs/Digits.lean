import Assessment.Text.Blank
import Assessment.Text.Digit
import Mathlib.Tactic

/-!
# Digits that write numbers

The digits of a number are European, and read they give the number back, with any zeros in front. So numbers
are written in different ways.
-/

namespace Assessment.Text

lemma isDigit_eq (c : Char) : isDigit c = c.isDigit := by
  simp [Char.isDigit, isDigit, Char.le_def]

lemma all_isDigit {cs : List Char} (h : ∀ c ∈ cs, c.isDigit = true) : cs.all isDigit = true := by
  rw [List.all_eq_true]
  exact fun c hc => isDigit_eq c ▸ h c hc

lemma exists_of_isDigit {c : Char} (h : c.isDigit = true) : ∃ k : Fin 10, c = Char.ofNat (48 + k) := by
  simp only [Char.isDigit, ge_iff_le, Bool.and_eq_true, decide_eq_true_eq, UInt32.le_iff_toNat_le] at h
  obtain ⟨hlow, hhigh⟩ := h
  change 48 ≤ c.toNat at hlow
  change c.toNat ≤ 57 at hhigh
  refine ⟨⟨c.toNat - 48, by omega⟩, ?_⟩
  have hback : 48 + (c.toNat - 48) = c.toNat := by omega
  simp only [hback, Char.ofNat_toNat]

lemma europeanDigit_of_isDigit {c : Char} (h : c.isDigit = true) : europeanDigit c = c := by
  have hvalues : ∀ k : Fin 10, europeanDigit (Char.ofNat (48 + k)) = Char.ofNat (48 + k) := by decide
  obtain ⟨k, rfl⟩ := exists_of_isDigit h
  exact hvalues k

lemma map_europeanDigit {cs : List Char} (h : ∀ c ∈ cs, europeanDigit c = c) : cs.map europeanDigit = cs := by
  conv_rhs => rw [← List.map_id cs]
  exact List.map_congr_left h

lemma isBlank_of_isDigit {c : Char} (h : c.isDigit = true) : isBlank c = false := by
  have hvalues : ∀ k : Fin 10, isBlank (Char.ofNat (48 + k)) = false := by decide
  obtain ⟨k, rfl⟩ := exists_of_isDigit h
  exact hvalues k

lemma isDigit_of_mem_digits {n : Nat} {c : Char} (h : c ∈ digitsOfNat n) : c.isDigit = true :=
  Nat.isDigit_of_mem_toDigits (by omega) le_rfl h

lemma natOfDigits_digits (n : Nat) : natOfDigits (digitsOfNat n) = n :=
  Nat.ofDigitChars_toDigits (by omega) le_rfl

lemma natOfDigits_zeros (k : Nat) (cs : List Char) :
    natOfDigits (List.replicate k '0' ++ cs) = natOfDigits cs := by
  rw [natOfDigits, Nat.ofDigitChars_append, Nat.ofDigitChars_replicate_zero, Nat.mul_zero, natOfDigits]

lemma digits_ne_nil (n : Nat) : digitsOfNat n ≠ [] := Nat.toDigits_ne_nil

lemma natRepr_injective {m n : Nat} (h : m.repr = n.repr) : m = n := by
  have hdigits : digitsOfNat m = digitsOfNat n := String.ofList_injective h
  rw [← natOfDigits_digits m, hdigits, natOfDigits_digits]

lemma not_minus_digits {m n : Nat} : m.repr ≠ "-" ++ n.repr := by
  intro h
  have hminus : '-' ∈ digitsOfNat m := by
    rw [← String.toList_ofList (l := digitsOfNat m), show String.ofList (digitsOfNat m) = m.repr from rfl, h,
      String.toList_append]
    exact List.mem_append_left _ (by decide)
  exact absurd (isDigit_of_mem_digits hminus) (by decide)

lemma intRepr_injective : ∀ {m n : Int}, m.repr = n.repr → m = n
  | .ofNat _, .ofNat _, h => congrArg Int.ofNat (natRepr_injective h)
  | .ofNat _, .negSucc _, h => absurd h not_minus_digits
  | .negSucc _, .ofNat _, h => absurd h.symm not_minus_digits
  | .negSucc _, .negSucc _, h =>
    congrArg Int.negSucc (Nat.succ.inj (natRepr_injective ((String.append_right_inj _).mp h)))

end Assessment.Text
