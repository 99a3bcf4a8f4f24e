import Assessment.Number.Decimal.Text
import Assessment.Proofs.Digits
import Assessment.Proofs.Texts

/-!
# Decimals are read as they are written

The written form of a finite decimal is a numeral: a sign, digits with at most one point among them, and a
power of ten where there is one. The reader counts the digits after the point, so it finds the very
coefficient and exponent again, however the point was placed.
-/

namespace Assessment.Number

open Text

/-- The characters of a sign; that of a positive number is not written. -/
def signChars (negative : Bool) : List Char := if negative then ['-'] else []

/-- A point with the digits after it, if there are any. -/
def fractionChars (fraction : List Char) : List Char := if fraction = [] then [] else '.' :: fraction

/-- Characters that write a coefficient and an exponent. -/
structure Writes (cs : List Char) (coefficient : Nat) (exponent : Int)
    (whole fraction mark : List Char) : Prop where
  chars : cs = whole ++ (fractionChars fraction ++ mark)
  some_digit : whole ≠ []
  whole_digits : ∀ c ∈ whole, c.isDigit = true
  fraction_digits : ∀ c ∈ fraction, c.isDigit = true
  ends : ∀ c ∈ mark.head?, c = 'E'
  exponent : readExponent? mark = some (exponent + fraction.length)
  coefficient : natOfDigits (whole ++ fraction) = coefficient

section Numerals

variable {cs whole fraction mark : List Char} {c : Nat} {e : Int}

lemma splitSign_signed (negative : Bool) {body : List Char} (h : ∀ x ∈ body.head?, x.isDigit = true) :
    splitSign (signChars negative ++ body) = (negative, body) := by
  cases negative with
  | true => rfl
  | false =>
    cases body with
    | nil => rfl
    | cons x body =>
      have hx : x.isDigit = true := h x rfl
      have hminus : x ≠ '-' := by rintro rfl; cases hx
      have hplus : x ≠ '+' := by rintro rfl; cases hx
      simp [signChars, splitSign, hminus, hplus]

lemma takeWhile_digits {digits rest : List Char} (hd : ∀ x ∈ digits, x.isDigit = true)
    (hr : ∀ x ∈ rest.head?, x.isDigit = false) :
    (digits ++ rest).takeWhile isDigit = digits ∧ (digits ++ rest).dropWhile isDigit = rest := by
  have hdigits : ∀ x ∈ digits, isDigit x = true := fun x hx => isDigit_eq x ▸ hd x hx
  rw [List.takeWhile_append_of_pos hdigits, List.dropWhile_append_of_pos hdigits]
  cases rest with
  | nil => simp
  | cons x rest =>
    have hx : isDigit x = false := isDigit_eq x ▸ hr x rfl
    simp [hx]

lemma Writes.numeral (h : Writes cs c e whole fraction mark) (negative : Bool) :
    Numeral.read? (signChars negative ++ cs) = some ⟨negative, whole ++ fraction, e⟩ := by
  have hmark : ∀ x ∈ mark.head?, x.isDigit = false := by
    intro x hx
    rw [h.ends x hx]
    rfl
  have hsign : splitSign (signChars negative ++ cs) = (negative, cs) := by
    refine splitSign_signed negative fun x hx => ?_
    obtain ⟨d, ds, hcons⟩ := List.exists_cons_of_ne_nil h.some_digit
    rw [h.chars, hcons] at hx
    obtain rfl : d = x := Option.some.inj hx
    exact h.whole_digits d (hcons ▸ List.mem_cons_self ..)
  have hpoint : ∀ x ∈ (fractionChars fraction ++ mark).head?, x.isDigit = false := by
    unfold fractionChars
    split_ifs
    · exact hmark
    · intro x hx
      obtain rfl : '.' = x := Option.some.inj hx
      rfl
  obtain ⟨htake, hdrop⟩ := takeWhile_digits h.whole_digits hpoint
  have hwhole : whole.isEmpty = false := List.isEmpty_eq_false_iff.mpr h.some_digit
  unfold Numeral.read?
  rw [hsign]
  simp only [h.chars, htake, hdrop, hwhole, Bool.false_and, Bool.false_eq_true, if_false]
  by_cases hfraction : fraction = []
  · subst hfraction
    have hexponent : readExponent? mark = some e := by simpa using h.exponent
    cases mark with
    | nil => simp [fractionChars, hexponent]
    | cons x rest =>
      obtain rfl : x = 'E' := h.ends x rfl
      simp [fractionChars, hexponent]
  · have hsome : fractionChars fraction ++ mark = '.' :: (fraction ++ mark) := by
      simp [fractionChars, hfraction]
    obtain ⟨htake', hdrop'⟩ := takeWhile_digits h.fraction_digits hmark
    simp [hsome, htake', hdrop', h.exponent]

lemma readExponent?_mark (k : Int) : readExponent? (Decimal.exponentMark k) = some k := by
  have hdigits : (digitsOfNat k.natAbs).all isDigit = true := all_isDigit fun _ => isDigit_of_mem_digits
  have hsome : (digitsOfNat k.natAbs).isEmpty = false := List.isEmpty_eq_false_iff.mpr (digits_ne_nil _)
  by_cases hk : k < 0
  · simp [Decimal.exponentMark, readExponent?, readSigned?, splitSign, hk, hdigits, hsome, natOfDigits_digits,
      abs_of_neg hk]
  · simp [Decimal.exponentMark, readExponent?, readSigned?, splitSign, hk, hdigits, hsome, natOfDigits_digits,
      abs_of_nonneg (not_lt.mp hk)]

lemma placePoint_front {digits : List Char} (some_digit : digits ≠ []) {place : Int} (h : place ≤ 0) :
    Decimal.placePoint digits place =
      '0' :: fractionChars (List.replicate (-place).toNat '0' ++ digits) := by
  have hne : List.replicate (-place).toNat '0' ++ digits ≠ [] := by simp [some_digit]
  rw [Decimal.placePoint, if_pos h, fractionChars, if_neg hne]

lemma placePoint_inside {digits : List Char} {k : Nat} (hk : 0 < k) (hle : k ≤ digits.length) :
    Decimal.placePoint digits k = digits.take k ++ fractionChars (digits.drop k) := by
  rw [Decimal.placePoint, if_neg (by omega), Int.toNat_natCast]
  split_ifs with hlength
  · obtain rfl : k = digits.length := le_antisymm hle hlength
    simp [fractionChars]
  · have hne : digits.drop k ≠ [] := by simpa using hlength
    rw [fractionChars, if_neg hne]

lemma writes_inside {digits mark : List Char} (hdigits : ∀ x ∈ digits, x.isDigit = true) {k : Nat} (hk : 0 < k)
    (hle : k ≤ digits.length) (ends : ∀ x ∈ mark.head?, x = 'E')
    (exponent : readExponent? mark = some (e + digits.length - k)) :
    Writes (Decimal.placePoint digits k ++ mark) (natOfDigits digits) e (digits.take k) (digits.drop k) mark where
  chars := by rw [placePoint_inside hk hle, List.append_assoc]
  some_digit := by
    rw [← List.length_pos_iff, List.length_take]
    omega
  whole_digits x hx := hdigits x (List.mem_of_mem_take hx)
  fraction_digits x hx := hdigits x (List.mem_of_mem_drop hx)
  ends := ends
  exponent := by
    rw [exponent, List.length_drop]
    congr 1
    omega
  coefficient := by rw [List.take_append_drop]

lemma writes_front {digits : List Char} (hdigits : ∀ x ∈ digits, x.isDigit = true) (some_digit : digits ≠ [])
    (h : e + digits.length ≤ 0) :
    Writes (Decimal.placePoint digits (e + digits.length)) (natOfDigits digits) e ['0']
      (List.replicate (-(e + digits.length)).toNat '0' ++ digits) [] where
  chars := by simp [placePoint_front some_digit h]
  some_digit := by simp
  whole_digits := by simp
  fraction_digits x hx := by
    rcases List.mem_append.mp hx with hx | hx
    · rw [(List.mem_replicate.mp hx).2]
      rfl
    · exact hdigits x hx
  ends := by simp
  exponent := by
    simp only [readExponent?, List.length_append, List.length_replicate]
    congr 1
    omega
  coefficient := by
    have hzeros : ['0'] ++ (List.replicate (-(e + digits.length)).toNat '0' ++ digits) =
        List.replicate ((-(e + digits.length)).toNat + 1) '0' ++ digits := rfl
    rw [hzeros, natOfDigits_zeros]

lemma exists_writes (c : Nat) (e : Int) : ∃ whole fraction mark,
    Writes (Decimal.magnitudeChars c e) c e whole fraction mark := by
  have hdigits : ∀ x ∈ digitsOfNat c, x.isDigit = true := fun x hx => isDigit_of_mem_digits hx
  have hpos : 0 < (digitsOfNat c).length := List.length_pos_iff.mpr (digits_ne_nil c)
  have hread : natOfDigits (digitsOfNat c) = c := natOfDigits_digits c
  unfold Decimal.magnitudeChars
  generalize digitsOfNat c = digits at *
  subst hread
  dsimp only
  split_ifs with hplain
  · by_cases hfront : e + digits.length ≤ 0
    · exact ⟨_, _, _, writes_front hdigits (List.length_pos_iff.mp hpos) hfront⟩
    · obtain ⟨k, hk⟩ : ∃ k : Nat, e + digits.length = k := Int.eq_ofNat_of_zero_le (by omega)
      have hexponent : readExponent? [] = some (e + digits.length - k) := by
        simp only [readExponent?]
        congr 1
        omega
      have hinside := writes_inside hdigits (by omega) (by omega) (by simp) hexponent
      rw [List.append_nil] at hinside
      exact ⟨_, _, _, hk ▸ hinside⟩
  · exact ⟨_, _, _, writes_inside hdigits Nat.one_pos hpos (by simp [Decimal.exponentMark])
      (readExponent?_mark _)⟩

end Numerals

namespace Decimal

/-- A character that the reader takes as it is: not dropped, and no digit of another script. -/
def Clean (x : Char) : Prop := isBlank x = false ∧ x ≠ '_' ∧ europeanDigit x = x

instance (x : Char) : Decidable (Clean x) := inferInstanceAs (Decidable (_ ∧ _ ∧ _))

lemma clean_of_isDigit {x : Char} (h : x.isDigit = true) : Clean x :=
  ⟨isBlank_of_isDigit h, fun heq => by simp [heq] at h, europeanDigit_of_isDigit h⟩

lemma clean_digits (n : Nat) : ∀ x ∈ digitsOfNat n, Clean x :=
  fun _ hx => clean_of_isDigit (isDigit_of_mem_digits hx)

lemma clean_exponentMark (k : Int) : ∀ x ∈ exponentMark k, Clean x := by
  refine List.forall_mem_cons.mpr ⟨by decide, List.forall_mem_cons.mpr ⟨?_, clean_digits _⟩⟩
  split_ifs <;> decide

lemma clean_placePoint {digits : List Char} (h : ∀ x ∈ digits, Clean x) (place : Int) :
    ∀ x ∈ placePoint digits place, Clean x := by
  have hpoint : Clean '.' := by decide
  have hzeros (k : Nat) : ∀ x ∈ List.replicate k '0', Clean x := by
    intro x hx
    rw [(List.mem_replicate.mp hx).2]
    decide
  unfold placePoint
  split_ifs
  · refine List.forall_mem_cons.mpr ⟨by decide, List.forall_mem_cons.mpr ⟨hpoint, ?_⟩⟩
    exact List.forall_mem_append.mpr ⟨hzeros _, h⟩
  · exact List.forall_mem_append.mpr ⟨h, hzeros _⟩
  · refine List.forall_mem_append.mpr ⟨fun x hx => h x (List.mem_of_mem_take hx), ?_⟩
    exact List.forall_mem_cons.mpr ⟨hpoint, fun x hx => h x (List.mem_of_mem_drop hx)⟩

lemma clean_chars (s : Bool) (c : Nat) (e : Int) : ∀ x ∈ (finite s c e).chars, Clean x := by
  refine List.forall_mem_append.mpr ⟨?_, ?_⟩
  · cases s with
    | false => exact List.forall_mem_nil _
    | true => exact List.forall_mem_singleton.mpr (by decide)
  · unfold magnitudeChars
    dsimp only
    split_ifs
    · exact clean_placePoint (clean_digits c) _
    · exact List.forall_mem_append.mpr ⟨clean_placePoint (clean_digits c) _, clean_exponentMark _⟩

lemma read?_of_clean {cs : List Char} (h : ∀ x ∈ cs, Clean x) : read? (String.ofList cs) = readPlain? cs := by
  have htrim : trimChars cs = cs := trimBy_eq_self_iff.mpr
    ⟨fun x hx => (h x (List.mem_of_mem_head? hx)).1, fun x hx => (h x (List.mem_of_mem_getLast? hx)).1⟩
  have hfilter : cs.filter (· != '_') = cs := List.filter_eq_self.mpr fun x hx => bne_iff_ne.mpr (h x hx).2.1
  have hmap : cs.map europeanDigit = cs := map_europeanDigit fun x hx => (h x hx).2.2
  rw [read?, String.toList_ofList, htrim, hfilter, hmap]

/-- A finite decimal is read as it is written, if its exponent can be held. -/
lemma read?_text (s : Bool) (c : Nat) (e : Int) : read? (finite s c e).text = ofParts? s c e := by
  obtain ⟨whole, fraction, mark, hwrites⟩ := exists_writes c e
  have hnumeral : Numeral.read? (finite s c e).chars = some ⟨s, whole ++ fraction, e⟩ := hwrites.numeral s
  rw [text, read?_of_clean (clean_chars s c e), readPlain?, hnumeral]
  exact congrArg (ofParts? s · e) hwrites.coefficient

/-- A finite decimal whose exponent can be held. -/
inductive Held : Decimal → Prop
  | finite {s : Bool} {c : Nat} {e : Int} (lowest : minExponent ≤ e) (highest : adjusted c e ≤ maxAdjusted) :
    Held (finite s c e)

lemma held_of_read? {s : String} {d : Decimal} (h : read? s = some d) (finite : d.isFinite = true) : d.Held := by
  unfold read? readPlain? at h
  split at h
  · simp only [ofParts?, Option.ite_none_right_eq_some] at h
    obtain ⟨⟨lowest, highest⟩, hd⟩ := h
    obtain rfl := Option.some.inj hd
    exact .finite lowest highest
  · simp only [readSpecial?, readPayload?] at h
    split at h <;> simp only [Option.ite_none_right_eq_some, Option.some.injEq, reduceCtorEq] at h
    · subst h
      cases finite
    · subst h
      cases finite
    · obtain ⟨-, rfl⟩ := h
      cases finite
    · obtain ⟨-, rfl⟩ := h
      cases finite

lemma Held.isFinite {d : Decimal} (h : d.Held) : d.isFinite = true := by
  cases h
  rfl

lemma Held.read?_text {d : Decimal} (h : d.Held) : read? d.text = some d := by
  cases h with
  | finite lowest highest => rw [Decimal.read?_text, ofParts?, if_pos ⟨lowest, highest⟩]

end Decimal

end Assessment.Number
