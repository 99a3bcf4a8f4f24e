import Assessment.Proofs.Digits
import Assessment.Proofs.Time.Calendar
import Assessment.Time.Iso

/-!
# Times are read as they are written

An instant is written with a field of fixed width for each part of its date and its time of day, and with six more
digits for a microsecond that is not zero. The reader cuts the text at the same places, so it finds the same fields.
-/

namespace Assessment.Time

open Text

section Fields

variable {width n : Nat}

lemma isDigit_of_mem_padded {c : Char} (h : c ∈ padded width n) : c.isDigit = true := by
  rcases List.mem_append.mp h with h | h
  · rw [(List.mem_replicate.mp h).2]
    rfl
  · exact isDigit_of_mem_digits h

lemma length_padded (hw : 0 < width) (hn : n < 10 ^ width) : (padded width n).length = width := by
  have hle : (Nat.toDigits 10 n).length ≤ width := (Nat.length_toDigits_le_iff (by omega) hw).mpr hn
  simp only [padded, List.length_append, List.length_replicate]
  omega

lemma natOfDigits_padded (width n : Nat) : natOfDigits (padded width n) = n := by
  have hpadded : padded width n =
      List.replicate (width - (digitsOfNat n).length) '0' ++ digitsOfNat n := rfl
  rw [hpadded, natOfDigits_zeros, natOfDigits_digits]

lemma padded_ne_nil (width n : Nat) : padded width n ≠ [] := by
  simp [padded, Nat.toDigits_ne_nil]

lemma exists_padded_cons (width n : Nat) : ∃ c cs, padded width n = c :: cs ∧ c.isDigit = true := by
  obtain ⟨c, cs, hcons⟩ := List.exists_cons_of_ne_nil (padded_ne_nil width n)
  exact ⟨c, cs, hcons, isDigit_of_mem_padded (hcons ▸ List.mem_cons_self ..)⟩

namespace Iso

lemma digits?_padded (hw : 0 < width) (hn : n < 10 ^ width) (rest : List Char) :
    digits? width (padded width n ++ rest) = some (n, rest) := by
  have hlength := length_padded hw hn
  have hdigits : (padded width n).all isDigit = true := all_isDigit fun _ => isDigit_of_mem_padded
  simp [digits?, List.take_left' hlength, List.drop_left' hlength, hlength, hdigits, natOfDigits_padded]

lemma digits?_padded_end (hw : 0 < width) (hn : n < 10 ^ width) :
    digits? width (padded width n) = some (n, []) := by
  simpa using digits?_padded hw hn []

end Iso

end Fields

namespace Iso

section Dates

variable {d : Date}

lemma year_lt (h : d.isValid = true) : d.year < 10 ^ 4 ∧ d.month < 10 ^ 2 ∧ d.day < 10 ^ 2 := by
  simp only [Date.isValid, Bool.and_eq_true, decide_eq_true_eq] at h
  obtain ⟨⟨⟨⟨⟨-, hyear⟩, -⟩, hmonth⟩, -⟩, hday⟩ := h
  have hlength : daysInMonth d.year d.month ≤ 31 := by
    unfold daysInMonth
    split_ifs <;> omega
  omega

lemma length_dateChars (h : d.isValid = true) : d.chars.length = 10 := by
  obtain ⟨hyear, hmonth, hday⟩ := year_lt h
  simp only [Date.chars, List.length_append, List.length_cons]
  rw [length_padded (by norm_num) hyear, length_padded (by norm_num) hmonth, length_padded (by norm_num) hday]

lemma monthDate?_chars (h : d.isValid = true) :
    monthDate? d.year true (padded 2 d.month ++ '-' :: padded 2 d.day) = some d := by
  obtain ⟨-, hmonth, hday⟩ := year_lt h
  simp [monthDate?, digits?_padded (by norm_num) hmonth, digits?_padded_end (by norm_num) hday, h]

lemma date?_chars (h : d.isValid = true) : date? d.chars = some d := by
  obtain ⟨hyear, -, -⟩ := year_lt h
  obtain ⟨c, cs, hcons, hdigit⟩ := exists_padded_cons 2 d.month
  have hweek : c ≠ 'W' := by
    rintro rfl
    cases hdigit
  have hmonth := monthDate?_chars h
  rw [hcons, List.cons_append] at hmonth
  rw [Date.chars, List.append_assoc, hcons]
  simp [date?, digits?_padded (by norm_num) hyear, hweek, hmonth]

end Dates

section Clocks

variable {after : Char} {v us : Nat}

/-- The digits after the point of a time of day; a whole second has none. -/
def microChars (us : Nat) : List Char := if us = 0 then [] else '.' :: padded 6 us

lemma fraction?_padded (hus : us < 10 ^ 6) : fraction? after (padded 6 us) = some ⟨[], us, after != nul⟩ := by
  have hlength := length_padded (by norm_num) hus
  have hdigits : (padded 6 us).all isDigit = true := all_isDigit fun _ => isDigit_of_mem_padded
  have htake : (padded 6 us).take 6 = padded 6 us := List.take_of_length_le hlength.le
  have hdrop : (padded 6 us).drop 6 = [] := List.drop_of_length_le hlength.le
  simp [fraction?, htake, hdrop, hdigits, hlength, natOfDigits_padded, Number.tenPow]

lemma clock?_seconds (hv : v < 10 ^ 2) (hus : us < 10 ^ 6) :
    clock? after 1 true (padded 2 v ++ microChars us) = some ⟨[v], us, after != nul⟩ := by
  unfold microChars
  split_ifs with hzero
  · simp [clock?, digits?_padded_end (by norm_num) hv, hzero]
  · have hlong : ¬(padded 6 us).length + 1 ≤ 1 := by
      rw [length_padded (by norm_num) hus]
      omega
    simp [clock?, digits?_padded (by norm_num) hv, hlong, fraction?_padded hus, ClockText.withField]

lemma clock?_field (hv : v < 10 ^ 2) {rest : List Char} (hrest : rest ≠ []) (n : Nat) :
    clock? after (n + 1) true (padded 2 v ++ ':' :: rest) = (clock? after n true rest).map (·.withField v) := by
  simp [clock?, digits?_padded (by norm_num) hv, hrest]

lemma clock?_clockChars {micros : Nat} (h : micros < 86400000000) :
    clock? after 3 true (Timestamp.clockChars micros) =
      some ⟨[micros / 1000000 / 3600, micros / 1000000 / 60 % 60, micros / 1000000 % 60], micros % 1000000,
        after != nul⟩ := by
  have hchars : Timestamp.clockChars micros =
      padded 2 (micros / 1000000 / 3600) ++ ':' :: (padded 2 (micros / 1000000 / 60 % 60) ++
        ':' :: (padded 2 (micros / 1000000 % 60) ++ microChars (micros % 1000000))) := by
    simp [Timestamp.clockChars, microChars]
  rw [hchars, clock?_field (by omega) (by simp), clock?_field (by omega) (by simp [padded_ne_nil]),
    clock?_seconds (by omega) (by omega)]
  rfl

lemma mem_clockChars {micros : Nat} {c : Char} (h : c ∈ Timestamp.clockChars micros) :
    c.isDigit = true ∨ c = ':' ∨ c = '.' := by
  have hfield {width n : Nat} (hc : c ∈ padded width n) : c.isDigit = true ∨ c = ':' ∨ c = '.' :=
    .inl (isDigit_of_mem_padded hc)
  simp only [Timestamp.clockChars, List.mem_append, List.mem_cons] at h
  rcases h with ((h | rfl | h) | rfl | h) | h
  · exact hfield h
  · exact .inr (.inl rfl)
  · exact hfield h
  · exact .inr (.inl rfl)
  · exact hfield h
  · split_ifs at h
    · cases h
    · exact (List.mem_cons.mp h).elim (fun h => .inr (.inr h)) hfield

lemma opensOffset_clockChars {micros : Nat} {c : Char} (h : c ∈ Timestamp.clockChars micros) :
    opensOffset c = false := by
  have hdigits : ∀ k : Fin 10, opensOffset (Char.ofNat (48 + k)) = false := by decide
  rcases mem_clockChars h with hc | rfl | rfl
  · obtain ⟨k, rfl⟩ := exists_of_isDigit hc
    exact hdigits k
  · rfl
  · rfl

lemma micros?_fields {micros : Nat} (h : micros < 86400000000) (followed : Bool) :
    ClockText.micros? ⟨[micros / 1000000 / 3600, micros / 1000000 / 60 % 60, micros / 1000000 % 60],
      micros % 1000000, followed⟩ = some (micros : Int) := by
  have hlimits : micros / 1000000 / 3600 ≤ 23 ∧ micros / 1000000 / 60 % 60 ≤ 59 ∧
      micros / 1000000 % 60 ≤ 59 := by omega
  have hsum : ((micros / 1000000 / 3600 * 60 + micros / 1000000 / 60 % 60) * 60 +
      micros / 1000000 % 60) * 1000000 + micros % 1000000 = micros := by omega
  exact (if_pos hlimits).trans (congrArg (some ∘ Nat.cast) hsum)

lemma time?_clockChars {micros : Nat} (h : micros < 86400000000) :
    time? (Timestamp.clockChars micros ++ Timestamp.offsetChars 0) = some ((micros : Int), some 0) := by
  have hclock : ∀ c ∈ Timestamp.clockChars micros, (!opensOffset c) = true := by
    intro c hc
    rw [opensOffset_clockChars hc, Bool.not_false]
  have hbody : (Timestamp.clockChars micros ++ Timestamp.offsetChars 0).takeWhile (fun c => !opensOffset c) =
      Timestamp.clockChars micros := by
    have hnone : (Timestamp.offsetChars 0).takeWhile (fun c => !opensOffset c) = [] := by decide
    rw [List.takeWhile_append_of_pos hclock, hnone, List.append_nil]
  have hrest : (Timestamp.clockChars micros ++ Timestamp.offsetChars 0).dropWhile (fun c => !opensOffset c) =
      Timestamp.offsetChars 0 := by
    rw [List.dropWhile_append_of_pos hclock]
    decide
  have hoffset : offset? (Timestamp.offsetChars 0) = some (some 0) := by decide
  have hsome : (Timestamp.offsetChars 0).isEmpty = false := by decide
  simp only [time?, hbody, hrest, clock?_clockChars h, hoffset, hsome]
  simp [micros?_fields h]

end Clocks

section Timestamps

/-- A character of one unit that stands for no surrogate. -/
def Plain (c : Char) : Prop := surrogate? c = none ∧ c.utf8Size = 1

instance (c : Char) : Decidable (Plain c) := inferInstanceAs (Decidable (_ ∧ _))

lemma plain_of_isDigit {c : Char} (h : c.isDigit = true) : Plain c := by
  have hdigits : ∀ k : Fin 10, Plain (Char.ofNat (48 + k)) := by decide
  obtain ⟨k, rfl⟩ := exists_of_isDigit h
  exact hdigits k

lemma units_of_plain {cs : List Char} (h : ∀ c ∈ cs, Plain c) : units cs = cs := by
  induction cs with
  | nil => rfl
  | cons c cs ih =>
    obtain ⟨hc, hcs⟩ := List.forall_mem_cons.mp h
    have hone : List.replicate c.utf8Size c = [c] := by rw [hc.2, List.replicate_one]
    simpa [units, hone] using ih hcs

lemma plainSeparator_of_plain {cs : List Char} (h : ∀ c ∈ cs, Plain c) : plainSeparator cs = cs := by
  have hnone : separatorPlaces.find? (fun i => (cs.getD i nul |> surrogate?).isSome) = none := by
    refine List.find?_eq_none.mpr fun i _ => ?_
    rw [List.getD_eq_getElem?_getD]
    cases hi : cs[i]? with
    | none => decide
    | some c => simp [(h c (List.mem_of_getElem? hi)).1]
  rw [plainSeparator, hnone]

lemma plain_dateChars {d : Date} {c : Char} (h : c ∈ d.chars) : Plain c := by
  simp only [Date.chars, List.mem_append, List.mem_cons] at h
  rcases h with (h | rfl | h) | rfl | h
  · exact plain_of_isDigit (isDigit_of_mem_padded h)
  · decide
  · exact plain_of_isDigit (isDigit_of_mem_padded h)
  · decide
  · exact plain_of_isDigit (isDigit_of_mem_padded h)

lemma plain_clockChars {micros : Nat} {c : Char} (h : c ∈ Timestamp.clockChars micros) : Plain c := by
  rcases mem_clockChars h with hc | rfl | rfl
  · exact plain_of_isDigit hc
  · decide
  · decide

lemma dateLength?_chars {d : Date} (h : d.isValid = true) (rest : List Char) :
    dateLength? (d.chars ++ rest) = some 10 := by
  obtain ⟨hyear, hmonth, -⟩ := year_lt h
  have hlength := length_dateChars h
  have hfour := length_padded (by norm_num) hyear
  have hhyphen : (d.chars ++ rest).getD 4 nul = '-' := by
    simp [Date.chars, hfour]
  have hweek : (d.chars ++ rest).getD 5 nul ≠ 'W' := by
    obtain ⟨c, cs, hcons, hdigit⟩ := exists_padded_cons 2 d.month
    have hplace : (d.chars ++ rest).getD 5 nul = c := by
      simp [Date.chars, List.getElem?_append_right, hfour, hcons]
    rw [hplace]
    rintro rfl
    cases hdigit
  have hlong : ¬(d.chars ++ rest).length < 7 ∧ (d.chars ++ rest).length ≠ 7 := by
    rw [List.length_append]
    omega
  simp only [dateLength?, hlong, hhyphen, hweek, if_true, if_false]

lemma timestamp?_chars {d : Date} (hd : d.isValid = true) {micros : Nat} (hmicros : micros < 86400000000) :
    timestamp? (String.ofList (d.chars ++ 'T' :: (Timestamp.clockChars micros ++ Timestamp.offsetChars 0))) =
      some ⟨d.number * Duration.perDay + micros, some 0⟩ := by
  have hlength := length_dateChars hd
  have hplain : ∀ c ∈ d.chars ++ 'T' :: (Timestamp.clockChars micros ++ Timestamp.offsetChars 0), Plain c := by
    have hoffset : ∀ c ∈ Timestamp.offsetChars 0, Plain c := by
      have hchars : Timestamp.offsetChars 0 = ['+', '0', '0', ':', '0', '0'] := by decide
      rw [hchars]
      exact List.forall_iff_forall_mem.mp (by decide)
    intro c hc
    simp only [List.mem_append, List.mem_cons] at hc
    rcases hc with hc | rfl | hc | hc
    · exact plain_dateChars hc
    · decide
    · exact plain_clockChars hc
    · exact hoffset c hc
  have htime := time?_clockChars hmicros
  have hsome : Timestamp.clockChars micros ++ Timestamp.offsetChars 0 ≠ [] := by simp [Timestamp.offsetChars]
  obtain ⟨c, cs, hcons⟩ := List.exists_cons_of_ne_nil hsome
  rw [hcons] at hplain htime ⊢
  have hunit : ('T' : Char).utf8Size - 1 = 0 := by decide
  rw [timestamp?, String.toList_ofList, plainSeparator_of_plain hplain, units_of_plain hplain]
  simp [dateLength?_chars hd, hlength, List.take_left' hlength, List.drop_left' hlength, date?_chars hd, hunit, htime]

end Timestamps

end Iso

/-- An instant in the years that can be held is read back from its text. -/
lemma Instant.timestamp?_text {t : Instant} (hlow : 0 ≤ t.micros) (hhigh : t.micros < endOfTime) :
    Iso.timestamp? t.text = some t.timestamp := by
  obtain ⟨micros⟩ := t
  obtain ⟨n, rfl⟩ : ∃ n : Nat, micros = n := Int.eq_ofNat_of_zero_le hlow
  dsimp only at hhigh
  have hday : n / 86400000000 < dayCount := by
    have hend : endOfTime = (dayCount * 86400000000 : Nat) := rfl
    rw [hend, Int.ofNat_lt] at hhigh
    exact Nat.div_lt_of_lt_mul (Nat.mul_comm .. ▸ hhigh)
  have htext : (Instant.mk n).text = String.ofList ((Date.ofNumber (n / 86400000000)).chars ++
      'T' :: (Timestamp.clockChars (n % 86400000000) ++ Timestamp.offsetChars 0)) := by
    have hperDay : Duration.perDay.toNat = 86400000000 := rfl
    simp [Instant.text, Instant.timestamp, Timestamp.text, Timestamp.charsWith, hperDay]
  have hsum : ((Date.ofNumber (n / 86400000000)).number : Int) * Duration.perDay + (n % 86400000000 : Nat) = n := by
    have hperDay : Duration.perDay = 86400000000 := rfl
    rw [number_ofNumber, hperDay]
    omega
  rw [htext, Iso.timestamp?_chars (isValid_ofNumber hday) (Nat.mod_lt _ (by norm_num)), hsum]
  rfl

end Assessment.Time
