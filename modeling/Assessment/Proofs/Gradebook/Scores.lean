import Assessment.Proofs.Gradebook.Records
import Assessment.Proofs.Readers

/-!
# What is entered under an item

The maximum of an item is a positive number of hundredths. A score that is entered under it is a number
of hundredths, too, and no larger; as long as the maxima have at most four digits before the point, it
reads back as it was entered. So a score that is found to differ from the stored one still differs from
it once it is stored.
-/

namespace Assessment.Gradebook

open Number Table

/-- Does a decimal count at most so many hundredths, whatever its sign? -/
def Within (n : Nat) (d : Decimal) : Prop := ∃ negative c, c ≤ n ∧ d = .finite negative c (-2)

/-- Is a decimal a number of hundredths from zero to so many? -/
def Between (n : Nat) (d : Decimal) : Prop := 0 ≤ d.value ∧ Within n d

/-- What a stored score reads as. -/
def scoreValue (a : Option Amount) : Option ℚ := a.map (·.toDecimal.value)

/-- A stored score, if there is one, reads as hundredths. -/
def Readable (a : Option Amount) : Prop :=
  ∀ x, a = some x → ∃ negative c, x.toDecimal = .finite negative c (-2)

section Checks

lemma checkMaxScore_eq_ok {v : Value} {d : Decimal} (h : checkMaxScore v = .ok d) :
    ∃ n, 0 < n ∧ n < 10 ^ 28 ∧ d = .finite false n (-2) := by
  simp only [checkMaxScore, bind_eq_ok] at h
  obtain ⟨found, hfound, h⟩ := h
  cases found with
  | none => simp at h
  | some x =>
    simp only [bind_eq_ok, lift_eq_ok, guard_eq_ok, pure_eq_ok] at h
    obtain ⟨nothing, hnothing, hpositive, rfl⟩ := h
    exact Decimal.hundredths_pos (readScore?_eq_ok hfound) hnothing hpositive

lemma between_of_not_less {d : Decimal} {n : Nat} (hd : ∃ s c, d = .finite s c (-2))
    (low : d.less .zero = .ok false) (high : (Decimal.finite false n (-2)).less d = .ok false) :
    Between n d := by
  obtain ⟨s, c, rfl⟩ := hd
  rw [Decimal.zero, Decimal.less_finite, Except.ok.injEq, decide_eq_false_iff_not, not_lt] at low
  rw [Decimal.less_finite, Except.ok.injEq, decide_eq_false_iff_not, not_lt] at high
  have hzero : (Decimal.finite false 0 0).value = 0 := by simp [Decimal.value_finite]
  exact ⟨hzero ▸ low, s, c, Decimal.hundredths_le (hzero ▸ low) high, rfl⟩

lemma checkScore_between {i : GradeItem} {v : Value} {score : Option Decimal} {n : Nat}
    (hmax : i.maxScore.toDecimal = .finite false n (-2)) (h : checkScore i v = .ok score) :
    ∀ d, score = some d → Between n d := by
  simp only [checkScore, bind_eq_ok] at h
  obtain ⟨found, hfound, h⟩ := h
  rintro d rfl
  cases found with
  | none => simp at h
  | some x =>
    simp only [bind_eq_ok, lift_eq_ok, guard_eq_ok, pure_eq_ok, Option.some_inj, Bool.or_eq_true,
      not_or, Bool.not_eq_true] at h
    obtain ⟨negative, low, more, high, ⟨rfl, rfl⟩, rfl⟩ := h
    obtain ⟨sign, c, -, hundredths⟩ := readScore?_eq_ok hfound
    exact between_of_not_less ⟨sign, c, hundredths⟩ low (hmax ▸ high)

lemma scale_between {score maxPoints : Option Decimal} {n : Nat} {d : Decimal}
    (h : scale score maxPoints (.finite false n (-2)) = .ok d) : Between n d := by
  cases scale_scaled h with
  | nothing => exact ⟨Decimal.magnitude_nonneg 0 (-2), false, 0, Nat.zero_le n, rfl⟩
  | cut _ rounded =>
    rw [Decimal.toHundredths_hundredths rounded]
    exact ⟨Decimal.magnitude_nonneg n (-2), false, n, le_rfl, rfl⟩
  | rounded rounded low high =>
    exact between_of_not_less (Decimal.hundredths_of_less rounded low) low high

end Checks

section Storing

lemma Within.stored {n : Nat} (hn : n < 2 ^ 52) {d : Decimal} (h : Within n d) :
    Readable (Amount.ofDecimal? d) ∧ scoreValue (Amount.ofDecimal? d) = some d.value := by
  obtain ⟨s, c, hle, rfl⟩ := h
  obtain ⟨a, t, m, hstored, hread, hvalue⟩ := Amount.stored_hundredths (hle.trans_lt hn) s
  rw [hstored]
  refine ⟨fun x hx => ?_, congrArg some hvalue⟩
  rw [← Option.some.inj hx]
  exact ⟨t, m, hread⟩

lemma stored_score {n : Nat} (hn : n < 2 ^ 52) {score : Option Decimal}
    (h : ∀ d, score = some d → Within n d) :
    Readable (score.bind Amount.ofDecimal?) ∧
      scoreValue (score.bind Amount.ofDecimal?) = score.map Decimal.value := by
  cases score with
  | none => exact ⟨by simp [Readable], rfl⟩
  | some d => exact (h d rfl).stored hn

lemma value_ne_of_sameScore {a : Option Amount} {score : Option Decimal} {n : Nat}
    (readable : Readable a) (within : ∀ d, score = some d → Within n d)
    (h : sameScore (a.map Amount.toDecimal) score = .ok false) :
    scoreValue a ≠ score.map Decimal.value := by
  cases a with
  | none =>
    cases score with
    | none => simp [sameScore] at h
    | some d => simp [scoreValue]
  | some a =>
    cases score with
    | none => simp [scoreValue]
    | some d =>
      obtain ⟨s, m, ha⟩ := readable a rfl
      obtain ⟨t, k, -, rfl⟩ := within d rfl
      simp only [sameScore, Option.map_some, bind_eq_ok, pure_eq_ok, ha] at h
      obtain ⟨l, hl, r, hr, hsame⟩ := h
      rw [Decimal.toHundredths_hundredths hl, Decimal.toHundredths_hundredths hr] at hsame
      intro hvalue
      rw [scoreValue, Option.map_some, Option.map_some, Option.some_inj, ha,
        ← Decimal.sameValue_finite] at hvalue
      rw [hvalue] at hsame
      cases hsame

lemma value_eq_of_sameScore {a : Option Amount} {d : Decimal} {n : Nat} (readable : Readable a)
    (within : Within n d) (h : sameScore (a.map Amount.toDecimal) (some d) = .ok true) :
    scoreValue a = some d.value := by
  cases a with
  | none => simp [sameScore] at h
  | some x =>
    obtain ⟨s, m, hx⟩ := readable x rfl
    obtain ⟨t, k, -, rfl⟩ := within
    simp only [sameScore, Option.map_some, bind_eq_ok, pure_eq_ok, hx] at h
    obtain ⟨l, hl, r, hr, hsame⟩ := h
    rw [Decimal.toHundredths_hundredths hl, Decimal.toHundredths_hundredths hr,
      Decimal.sameValue_finite] at hsame
    rw [scoreValue, Option.map_some, hx, hsame]

lemma value_ne_of_changes {c : ScoreChange} {entry : Option GradeEntry} {n : Nat}
    (readable : ∀ e, entry = some e → Readable e.score)
    (within : ∀ d, c.score = some d → Within n d) (h : c.changes entry = .ok true) :
    scoreValue (entry.bind (·.score)) ≠ c.score.map Decimal.value := by
  cases entry with
  | none =>
    obtain ⟨d, hd⟩ := Option.isSome_iff_exists.mp (Except.ok.inj h)
    simp [scoreValue, hd]
  | some e =>
    simp only [ScoreChange.changes, bind_eq_ok, pure_eq_ok, Bool.not_eq_true'] at h
    obtain ⟨same, hsame, rfl⟩ := h
    exact value_ne_of_sameScore (readable e rfl) within hsame

lemma value_eq_of_unchanged {c : ScoreChange} {entry : Option GradeEntry} {n : Nat}
    (readable : ∀ e, entry = some e → Readable e.score)
    (within : ∀ d, c.score = some d → Within n d) (h : c.changes entry = .ok false) :
    scoreValue (entry.bind (·.score)) = c.score.map Decimal.value := by
  cases entry with
  | none =>
    have hnone : c.score = none := by simpa [ScoreChange.changes] using h
    rw [hnone]
    rfl
  | some e =>
    simp only [ScoreChange.changes, bind_eq_ok, pure_eq_ok, Bool.not_eq_false'] at h
    obtain ⟨same, hsame, rfl⟩ := h
    cases hd : c.score with
    | some d => exact value_eq_of_sameScore (readable e rfl) (within d hd) (hd ▸ hsame)
    | none =>
      have hscore : e.score = none := by
        cases he : e.score with
        | none => rfl
        | some a => simp [he, hd, sameScore] at hsame
      simp [scoreValue, hscore]

end Storing

section Maxima

/-- The maxima of the items are positive numbers of hundredths. -/
def PositiveMaxima (s : Store) : Prop :=
  ∀ i ∈ s.items, ∃ n, 0 < n ∧ i.maxScore.toDecimal = .finite false n (-2)

/-- The maxima of the items have at most four digits before the point. -/
def InRange (s : Store) : Prop := ∀ i ∈ s.items, i.maxScore.toDecimal.value ≤ 9999.99

variable {ctx : Context} {s s' : Store}

/-- An item that is added has passed the checks, and its name is a new one in its book. -/
structure Added (s : Store) (i : GradeItem) : Prop where
  name : ∃ v, checkName v = .ok i.name
  maxScore : ∃ v d, checkMaxScore v = .ok d ∧ i.maxScore = (Amount.ofDecimal? d).getD .zero
  weight : ∃ v d, checkWeight v = .ok d ∧ i.weight = d.bind Amount.ofDecimal?
  fresh : ∀ j ∈ s.items, j.book = i.book → nameKey j.name ≠ Text.upper i.name

lemma items_of_step {op : Service} (w : Step ctx s op s') :
    s'.items = s.items ∨ ∃ i, Added s i ∧ s'.items = s.items ++ [i] := by
  cases w with
  | quiz w | attempt w | queueing _ w | opening _ w | posting _ w =>
    rw [w.frame]
    exact .inl rfl
  | book w =>
    cases w with
    | item checked _ _ _ fresh =>
      obtain ⟨-, hname, hmaxScore, hweight⟩ := checkItem_eq_ok checked
      refine .inr ⟨_, ⟨⟨_, hname⟩, ⟨_, _, hmaxScore, rfl⟩, ⟨_, _, hweight, rfl⟩, ?_⟩, rfl⟩
      intro j hj hbook
      exact fun hname => List.any_eq_false.mp fresh j (mem_itemsOf.mpr ⟨hj, hbook⟩) (beq_iff_eq.mpr hname)
    | batch _ _ _ _ _ _ _ _ entered =>
      rw [applyBatch_frame entered]
      exact .inl rfl
    | request | decide => exact .inl rfl

lemma Added.maximum {i : GradeItem} (h : Added s i) :
    ∃ n, 0 < n ∧ n < 10 ^ 28 ∧ Amount.ofDecimal? (.finite false n (-2)) = some i.maxScore := by
  obtain ⟨v, d, hchecked, hmax⟩ := h.maxScore
  obtain ⟨n, hpos, hlt, rfl⟩ := checkMaxScore_eq_ok hchecked
  obtain ⟨a, ha⟩ := Option.isSome_iff_exists.mp (Amount.ofDecimal?_isSome false n (-2))
  rw [ha, Option.getD_some] at hmax
  exact ⟨n, hpos, hlt, hmax ▸ ha⟩

lemma PositiveMaxima.step (h : PositiveMaxima s) {op : Service} (w : Step ctx s op s') :
    PositiveMaxima s' := by
  rcases items_of_step w with hitems | ⟨i, hadded, hitems⟩
  · exact fun i hi => h i (hitems ▸ hi)
  · intro j hj
    rcases List.mem_append.mp (hitems ▸ hj) with hj | hj
    · exact h j hj
    · rw [List.mem_singleton.mp hj]
      obtain ⟨n, hpos, hlt, hstored⟩ := hadded.maximum
      exact Amount.toDecimal_pos hpos hlt hstored

lemma InRange.before (h : InRange s') {op : Service} (w : Step ctx s op s') : InRange s := by
  intro i hi
  refine h i ?_
  rcases items_of_step w with hitems | ⟨_, -, hitems⟩
  · exact hitems ▸ hi
  · exact hitems ▸ List.mem_append_left _ hi

lemma hundredths_le_of_value {n : Nat} (h : (Decimal.finite false n (-2)).value ≤ 9999.99) : n ≤ 999999 := by
  rw [Decimal.value_finite, Decimal.magnitude_hundredths] at h
  have hcast : (n : ℚ) ≤ 999999 := by
    norm_num at h
    linarith
  exact_mod_cast hcast

lemma InRange.hundredths (h : InRange s) (hp : PositiveMaxima s) {i : GradeItem} (hi : i ∈ s.items) :
    ∃ n, n ≤ 999999 ∧ i.maxScore.toDecimal = .finite false n (-2) := by
  obtain ⟨n, -, hn⟩ := hp i hi
  have hle := h i hi
  rw [hn] at hle
  exact ⟨n, hundredths_le_of_value hle, hn⟩

end Maxima

/-- A score that is entered: for an item that is there, within its range, and not the same as before. -/
structure Entering (s : Store) (c : ScoreChange) : Prop where
  known : ∃ i ∈ s.items, i.id = c.item
  within : ∀ d, c.score = some d → Within 999999 d
  differs : c.changes (s.entryOf? c.item c.enrollment) = .ok true

section Entering

variable {s s' : Store} {now : Time.Instant}

lemma Within.mono {m n : Nat} (hmn : m ≤ n) {d : Decimal} (h : Within m d) : Within n d := by
  obtain ⟨s, c, hle, hd⟩ := h
  exact ⟨s, c, hle.trans hmn, hd⟩

lemma entryOf?_withScore_of_ne (hi : Integrity s) {c : ScoreChange} {actor : Option Int}
    {item enrollment : Int} (hne : (c.item, c.enrollment) ≠ (item, enrollment)) :
    (withScore c actor now s).entryOf? item enrollment = s.entryOf? item enrollment := by
  have hother (e : GradeEntry) (hitem : e.item = c.item) (henrollment : e.enrollment = c.enrollment) :
      ¬(e.item == item && e.enrollment == enrollment) = true := by
    rw [hitem, henrollment]
    simpa using hne
  cases h : s.entryOf? c.item c.enrollment with
  | none =>
    unfold Store.entryOf?
    rw [entries_withScore_of_none h, List.find?_append, List.find?_singleton,
      if_neg (hother (firstEntry c actor now s) rfl rfl), Option.or_none]
  | some e =>
    obtain ⟨he, hitem, henrollment⟩ := entryOf?_eq_some h
    unfold Store.entryOf?
    rw [entries_withScore_of_some h]
    refine search_modify fun x hx hid => ?_
    rw [hi.entries.eq_of_id_eq hx he hid]
    exact ⟨hother e hitem henrollment, hother _ hitem henrollment⟩

lemma applyBatch_entering {P : Store → Prop} {changes : List BatchChange} (hi : Integrity s)
    (h : applyBatch now changes s = .ok s')
    (apart : (changes.map (·.change)).Pairwise fun c d =>
      (c.item, c.enrollment) ≠ (d.item, d.enrollment))
    (entering : ∀ c ∈ changes, Entering s c.change) (start : P s)
    (step : ∀ t c actor, Integrity t → P t → Entering t c → P (withScore c actor now t)) : P s' := by
  induction changes generalizing s with
  | nil =>
    cases h
    exact start
  | cons c changes ih =>
    obtain ⟨actor, haccepts, h⟩ := applyBatch_cons.mp h
    obtain ⟨hfirst, hrest⟩ := List.pairwise_cons.mp apart
    have hc := entering c (List.mem_cons_self ..)
    refine ih (hi.withScore haccepts.item) h hrest (fun d hd => ?_) (step s _ actor hi start hc)
    have hd' := entering d (List.mem_cons_of_mem _ hd)
    -- The scores of the rest are at other places, so they differ still from what is entered there.
    refine ⟨hd'.known, hd'.within, ?_⟩
    rw [entryOf?_withScore_of_ne hi (hfirst d.change (List.mem_map_of_mem hd))]
    exact hd'.differs

lemma entering_of_batch (hr : InRange s) (hp : PositiveMaxima s) {book : Int} {actor : Value}
    {enrollments rows : List Value} {cells : List ScoreCell} {changes : List BatchChange}
    (checked : checkCells (s.itemsOf book) enrollments [] rows = .ok cells)
    (differing : batchChanges s actor cells = .ok changes) :
    ∀ c ∈ changes, Entering s c.change := by
  intro c hc
  obtain ⟨cell, hcell, hchange⟩ := batchChanges_cells differing c hc
  obtain ⟨hitem, -, v, -, hscore, -⟩ := checkCells_cells checked cell hcell
  obtain ⟨hmem, -⟩ := mem_itemsOf.mp hitem
  obtain ⟨n, hle, hmax⟩ := hr.hundredths hp hmem
  have hdiffers := (batchChanges_eq_ok differing).2 c hc
  rw [hchange] at hdiffers ⊢
  exact ⟨⟨cell.item, hmem, rfl⟩, fun d hd => (checkScore_between hmax hscore d hd).2.mono hle, hdiffers⟩

lemma apart_of_batch {items : List GradeItem} {actor : Value} {enrollments rows : List Value}
    {cells : List ScoreCell} {changes : List BatchChange}
    (checked : checkCells items enrollments [] rows = .ok cells)
    (differing : batchChanges s actor cells = .ok changes) :
    (changes.map (·.change)).Pairwise fun c d =>
      (c.item, c.enrollment) ≠ (d.item, d.enrollment) := by
  refine List.Pairwise.sublist (batchChanges_eq_ok differing).1 ?_
  exact List.pairwise_map.mpr (checkCells_iff.mp checked).2

lemma entering_of_post (hr : InRange s) (hp : PositiveMaxima s) {i : GradeItem} (hi : i ∈ s.items)
    {score maxPoints : Option Decimal} {d : Decimal}
    (scaled : scale score maxPoints i.maxScore.toDecimal = .ok d) {enrollment : Int} {actor : Value}
    {reason : String} (differs : ScoreChange.changes ⟨i.id, enrollment, some d, actor, reason⟩
      (s.entryOf? i.id enrollment) = .ok true) :
    Entering s ⟨i.id, enrollment, some d, actor, reason⟩ := by
  obtain ⟨n, hle, hmax⟩ := hr.hundredths hp hi
  refine ⟨⟨i, hi, rfl⟩, fun x hx => ?_, differs⟩
  rw [← Option.some.inj hx]
  exact (scale_between (hmax ▸ scaled)).2.mono hle

end Entering

end Assessment.Gradebook
