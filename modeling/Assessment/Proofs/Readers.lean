import Assessment.Proofs.Number.Values
import Assessment.Proofs.Texts

/-!
# What is read from requests

A reader that succeeds yields a text without blanks around it, an integer as it is given, a decimal that is
finite, or a score in hundredths.
-/

namespace Assessment

open Number Request

variable {label : String} {v : Value}

lemma readTrimmed_eq_ok {t : String} (h : readTrimmed v = .ok t) : Text.trim t = t := by
  unfold readTrimmed at h
  split_ifs at h
  · cases h
    rfl
  · cases v with
    | text s =>
      cases h
      exact Text.trim_trim s
    | _ => cases h

lemma readTrimmed_text {s : String} (h : Text.trim s = s) : readTrimmed (.text s) = .ok s := by
  unfold readTrimmed
  split_ifs with hempty
  · have hs : s = "" := by simpa [Value.truthy] using hempty
    rw [hs]
  · exact congrArg Except.ok h

lemma readItems_list (vs : List Value) : readItems (.list vs) = .ok vs := by
  cases vs <;> rfl

lemma readPositive_int {n m : Int} (h : readPositive label (.int n) = .ok m) : m = n := by
  change (if 0 < n then (.ok n : Except Fault Int) else .error (.refused (.notPositive label))) = .ok m at h
  simp only [when_eq_ok, Except.ok.injEq] at h
  exact h.2.symm

lemma readPositive_of_pos {n : Int} (h : 0 < n) : readPositive label (.int n) = .ok n := by
  change (if 0 < n then (.ok n : Except Fault Int) else .error (.refused (.notPositive label))) = .ok n
  exact if_pos h

lemma readDecimal_eq_ok {d : Decimal} (h : readDecimal label v = .ok d) :
    Decimal.read? v.display = some d ∧ d.isFinite = true := by
  unfold readDecimal at h
  split at h
  · rename_i x hread
    simp only [when_eq_ok, Except.ok.injEq] at h
    obtain ⟨hfinite, rfl⟩ := h
    exact ⟨hread, hfinite⟩
  · cases h

lemma readScore?_eq_ok {d : Decimal} (h : readScore? label v = .ok (some d)) :
    ∃ s c, c < 10 ^ Decimal.precision ∧ d = .finite s c (-2) := by
  unfold readScore? at h
  split_ifs at h
  · cases h
  · simp only [bind_eq_ok, lift_eq_ok, pure_eq_ok, Option.some_inj] at h
    obtain ⟨given, hgiven, rounded, hrounded, rfl⟩ := h
    exact Decimal.toHundredths_finite (readDecimal_eq_ok hgiven).2 hrounded

end Assessment
