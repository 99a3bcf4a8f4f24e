import Assessment.Api.Route
import Assessment.Proofs.Digits
import Mathlib.Data.List.TakeWhile
import Mathlib.Tactic

/-!
# Paths that stand for themselves

A target made of slashes, letters, digits and hyphens names no host and nothing in it is escaped, so it is its
own path. A path is taken apart at its slashes, and a number in it is read as it was written.
-/

namespace Assessment.Api

open Text

/-- A character that means nothing but itself in a target. -/
def isPlain (c : Char) : Bool := c.isAlphanum || c == '/' || c == '-'

section Plain

variable {c d : Char} {cs : List Char}

lemma isPlain_bounds (h : isPlain c = true) : 45 ≤ c.toNat ∧ c.toNat ≤ 122 := by
  change (((decide (c.val ≥ 65 ∧ c.val ≤ 90) || (decide (c.val ≥ 97) && decide (c.val ≤ 122))) ||
    (decide (c.val ≥ 48) && decide (c.val ≤ 57))) || c == '/' || c == '-') = true at h
  simp only [Bool.or_eq_true, Bool.and_eq_true, decide_eq_true_eq, beq_iff_eq, ge_iff_le,
    UInt32.le_iff_toNat_le] at h
  change ((((65 ≤ c.toNat ∧ c.toNat ≤ 90) ∨ (97 ≤ c.toNat ∧ c.toNat ≤ 122)) ∨
    (48 ≤ c.toNat ∧ c.toNat ≤ 57)) ∨ c = '/') ∨ c = '-' at h
  rcases h with (((upper | lower) | digit) | rfl) | rfl
  · omega
  · omega
  · omega
  · decide
  · decide

lemma ne_of_isPlain (hc : isPlain c = true) (hd : isPlain d = false) : c ≠ d := by
  rintro rfl
  rw [hc] at hd
  cases hd

lemma not_blank_of_isPlain (h : isPlain c = true) : ¬c ≤ ' ' := by
  intro hle
  have hbound : c.toNat ≤ ' '.toNat := hle
  have hlow := (isPlain_bounds h).1
  change c.toNat ≤ 32 at hbound
  omega

lemma surrogate?_of_isPlain (h : isPlain c = true) : surrogate? c = none := by
  have hhigh := (isPlain_bounds h).2
  refine if_neg fun hstandIn => ?_
  unfold firstStandIn at hstandIn
  omega

lemma isPlain_of_isDigit (h : c.isDigit = true) : isPlain c = true := by
  simp [isPlain, Char.isAlphanum, h]

lemma span_of_plain (plain : ∀ c ∈ cs, isPlain c = true) {p : Char → Bool}
    (h : ∀ c, isPlain c = true → p c = true) : cs.span p = (cs, []) := by
  have hall : ∀ c ∈ cs, p c = true := fun c hc => h c (plain c hc)
  rw [List.span_eq_takeWhile_dropWhile, List.takeWhile_eq_self_iff.mpr hall, List.dropWhile_eq_nil_iff.mpr hall]

lemma not_contains_of_plain (plain : ∀ c ∈ cs, isPlain c = true) (hd : isPlain d = false) :
    cs.contains d = false := by
  rw [List.contains_eq_mem, decide_eq_false_iff_not]
  intro hmem
  exact ne_of_isPlain (plain d hmem) hd rfl

end Plain

section Targets

variable {c : Char} {cs : List Char}

lemma withoutBreaks_of_plain (plain : ∀ c ∈ cs, isPlain c = true) : withoutBreaks cs = cs := by
  have hfront : cs.dropWhile (· ≤ ' ') = cs := by
    cases cs with
    | nil => rfl
    | cons c cs =>
      refine List.dropWhile_cons_of_neg ?_
      simpa using not_blank_of_isPlain (plain c (List.mem_cons_self ..))
  unfold withoutBreaks
  rw [hfront, List.filter_eq_self]
  intro c hc
  have hne (d : Char) (hd : isPlain d = false) : (c != d) = true := by
    simpa using ne_of_isPlain (plain c hc) hd
  rw [hne '\t' (by decide), hne '\r' (by decide), hne '\n' (by decide)]
  rfl

lemma dropScheme_of_plain (plain : ∀ c ∈ cs, isPlain c = true) : dropScheme cs = cs := by
  have hspan : cs.span (· != ':') = (cs, []) :=
    span_of_plain plain fun c hc => by simpa using ne_of_isPlain hc (by decide)
  unfold dropScheme
  rw [hspan]

lemma split_of_plain (plain : ∀ d ∈ '/' :: c :: cs, isPlain d = true) (single : c ≠ '/') :
    split ('/' :: c :: cs) = .ok ([], '/' :: c :: cs) := by
  have hhost : splitHost ('/' :: c :: cs) = ([], '/' :: c :: cs) := by
    unfold splitHost
    split
    · rename_i rest heq
      exact absurd (List.cons.inj (List.cons.inj heq).2).1 single
    · rfl
  have hpath : ('/' :: c :: cs).takeWhile (fun c => c != '?' && c != '#') = '/' :: c :: cs := by
    refine List.takeWhile_eq_self_iff.mpr fun d hd => ?_
    have hquery := ne_of_isPlain (plain d hd) (by decide : isPlain '?' = false)
    have hfragment := ne_of_isPlain (plain d hd) (by decide : isPlain '#' = false)
    simp [hquery, hfragment]
  unfold split
  rw [withoutBreaks_of_plain plain, dropScheme_of_plain plain, hhost]
  simp only [hpath]
  rfl

/-- A plain target is a path of the own host. -/
theorem ofText_of_plain (plain : ∀ d ∈ '/' :: c :: cs, isPlain d = true) (single : c ≠ '/') :
    Target.ofText (String.ofList ('/' :: c :: cs)) = .ok ⟨true, '/' :: c :: cs⟩ := by
  have hencoded : hasEncoding (String.ofList (('/' :: c :: cs).takeWhile (· != '#'))) = true := by
    unfold hasEncoding
    rw [String.toList_ofList, List.all_eq_true]
    intro d hd
    rw [surrogate?_of_isPlain (plain d ((List.takeWhile_sublist _).subset hd))]
    rfl
  have hunescaped : unescaped ('/' :: c :: cs) = '/' :: c :: cs := by
    unfold unescaped
    rw [not_contains_of_plain plain (by decide)]
    rfl
  have hslash : ('/' :: c :: cs).dropWhile (· == '/') = c :: cs := by
    simp [single]
  unfold Target.ofText
  simp only [String.toList_ofList, split_of_plain plain single, hencoded, hunescaped, hslash, bind, Except.bind]
  rfl

end Targets

section Segments

variable {word rest : List Char}

lemma segments_of_word (h : '/' ∉ word) : segments word = [word] := by
  induction word with
  | nil => rfl
  | cons c word ih =>
    obtain ⟨hc, hword⟩ := not_or.mp (mt List.mem_cons.mpr h)
    simp [segments, Ne.symm hc, ih hword]

lemma segments_word_append (h : '/' ∉ word) : segments (word ++ '/' :: rest) = word :: segments rest := by
  induction word with
  | nil => simp [segments]
  | cons c word ih =>
    obtain ⟨hc, hword⟩ := not_or.mp (mt List.mem_cons.mpr h)
    simp [segments, Ne.symm hc, ih hword]

end Segments

section Numbers

lemma readNumber?_digits (n : Nat) : readNumber? (digitsOfNat n) = some (n : Int) := by
  have hsame : (digitsOfNat n).map europeanDigit = digitsOfNat n :=
    map_europeanDigit fun c hc => europeanDigit_of_isDigit (isDigit_of_mem_digits hc)
  have hdigits : (digitsOfNat n).all isDigit = true := all_isDigit fun _ => isDigit_of_mem_digits
  have hsome : (digitsOfNat n).isEmpty = false := List.isEmpty_eq_false_iff.mpr (digits_ne_nil n)
  simp [readNumber?, hsame, hsome, hdigits, natOfDigits_digits]

end Numbers

end Assessment.Api
