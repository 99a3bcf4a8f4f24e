import Assessment.Proofs.Number.ExactSums
import Assessment.Proofs.Quiz.Grades

/-!
# Grading goes by the last answers

A list of answers is first reduced to one selection for each question, and then the selections are graded one
by one. What comes out is said without either order: a question counts by the last answer that is given to it,
and what that answer is among the options of the question.
-/

namespace Assessment

namespace KeyedList

variable {κ α : Type} [DecidableEq κ] {key : κ} {v w : α} {pairs : List (κ × α)}

lemma mem_put (distinct : (pairs.map Prod.fst).Nodup) {k : κ} :
    (k, w) ∈ put key v pairs ↔ if k = key then w = v else (k, w) ∈ pairs := by
  induction pairs with
  | nil =>
    rw [put, List.mem_singleton, Prod.mk.injEq]
    split_ifs with hk <;> simp [hk]
  | cons p pairs ih =>
    obtain ⟨k', w'⟩ := p
    obtain ⟨hfresh, hrest⟩ := List.nodup_cons.mp distinct
    rw [put]
    by_cases hk' : k' = key
    · subst hk'
      rw [if_pos rfl, List.mem_cons, List.mem_cons, Prod.mk.injEq, Prod.mk.injEq]
      by_cases hk : k = k'
      · have habsent : (k', w) ∉ pairs := fun h => hfresh (List.mem_map.mpr ⟨_, h, rfl⟩)
        simp [habsent, hk]
      · simp [hk]
    · rw [if_neg hk', List.mem_cons, List.mem_cons, ih hrest, Prod.mk.injEq]
      by_cases hk : k = key
      · have hne : k ≠ k' := fun h => hk' (h ▸ hk)
        simp [hk, hk ▸ hne]
      · simp [hk]

lemma mem_ofList : (key, v) ∈ ofList pairs ↔ get? key pairs.reverse = some v := by
  induction pairs using List.reverseRecOn with
  | nil => simp [ofList, get?]
  | append_singleton pairs p ih =>
    obtain ⟨k, w⟩ := p
    have hput : ofList (pairs ++ [(k, w)]) = put k w (ofList pairs) := by
      unfold ofList
      rw [List.foldl_append]
      rfl
    rw [hput, mem_put (ofList_nodup pairs), ih, List.reverse_append, List.reverse_singleton,
      List.singleton_append]
    unfold get?
    by_cases hk : key = k
    · simp [hk, eq_comm]
    · simp [hk, Ne.symm hk]

end KeyedList

namespace Quiz

open Number Decimal

variable {key : List QuestionKey} {items items' : List (Int × Option Int)} {k : QuestionKey}

/-- The last answer to a question, which may select nothing. -/
def lastAnswer (items : List (Int × Option Int)) (question : Int) : Option (Option Int) :=
  KeyedList.get? question items.reverse

/-- The last answer to a question selects an option of the question that is its correct one. -/
def AnsweredRight (items : List (Int × Option Int)) (k : QuestionKey) : Prop :=
  ∃ o ∈ k.options, lastAnswer items k.question = some (some o) ∧ k.correct = some o

instance (items : List (Int × Option Int)) : DecidablePred (AnsweredRight items) := fun k =>
  inferInstanceAs (Decidable (∃ o ∈ k.options,
    lastAnswer items k.question = some (some o) ∧ k.correct = some o))

section Rows

/-- The questions of a key that are answered, each with its graded selection. -/
def answered (key : List QuestionKey) (items : List (Int × Option Int)) :
    List (QuestionKey × GradedSelection) :=
  key.filterMap fun k => (lastAnswer items k.question).map fun selected => (k, gradeSelection k selected)

lemma mem_answered {m : QuestionKey × GradedSelection} : m ∈ answered key items ↔
    m.1 ∈ key ∧ ∃ selected, lastAnswer items m.1.question = some selected ∧
      m.2 = gradeSelection m.1 selected := by
  obtain ⟨k, g⟩ := m
  simp only [answered, List.mem_filterMap, Option.map_eq_some_iff, Prod.mk.injEq]
  constructor
  · rintro ⟨k', hk', selected, hlast, rfl, rfl⟩
    exact ⟨hk', selected, hlast, rfl⟩
  · rintro ⟨hk, selected, hlast, rfl⟩
    exact ⟨k, hk, selected, hlast, rfl, rfl⟩

lemma find?_question (distinct : (key.map (·.question)).Nodup) (hk : k ∈ key) :
    key.find? (·.question == k.question) = some k := by
  obtain ⟨k', hk'⟩ : ∃ k', key.find? (·.question == k.question) = some k' :=
    Option.isSome_iff_exists.mp (List.find?_isSome.mpr ⟨k, hk, beq_self_eq_true _⟩)
  have hquestion : k'.question = k.question := by simpa using List.find?_some hk'
  rw [hk', List.inj_on_of_nodup_map distinct (List.mem_of_find?_eq_some hk') hk hquestion]

lemma mem_known_iff (distinct : (key.map (·.question)).Nodup) {m : QuestionKey × GradedSelection} :
    m ∈ known key (KeyedList.ofList items) ↔ m ∈ answered key items := by
  rw [mem_answered]
  simp only [known, List.mem_filterMap, Prod.exists, Option.map_eq_some_iff, KeyedList.mem_ofList]
  constructor
  · rintro ⟨question, selected, hlast, k, hfind, rfl⟩
    obtain rfl : k.question = question := by simpa using List.find?_some hfind
    exact ⟨List.mem_of_find?_eq_some hfind, selected, hlast, rfl⟩
  · obtain ⟨k, g⟩ := m
    rintro ⟨hk, selected, hlast, hg⟩
    exact ⟨k.question, selected, hlast, k, find?_question distinct hk, Prod.ext rfl hg.symm⟩

lemma known_perm (items : List (Int × Option Int)) (distinct : (key.map (·.question)).Nodup) :
    (known key (KeyedList.ofList items)).Perm (answered key items) := by
  have hknown : (known key (KeyedList.ofList items)).Nodup :=
    .of_map (·.1.question) ((KeyedList.ofList_nodup items).sublist known_sublist)
  have hanswered : (answered key items).Nodup := by
    refine distinct.of_map.filterMap ?_
    intro k k' m hm hm'
    obtain ⟨_, _, rfl⟩ := Option.map_eq_some_iff.mp hm
    obtain ⟨_, _, h⟩ := Option.map_eq_some_iff.mp hm'
    exact (congrArg Prod.fst h).symm
  exact (List.perm_ext_iff_of_nodup hknown hanswered).mpr fun m => mem_known_iff distinct

lemma gradeSelection_right {selected : Option Int} (h : lastAnswer items k.question = some selected) :
    (gradeSelection k selected).correct = true ↔ AnsweredRight items k := by
  rw [(gradeSelection_marks k selected).correct]
  unfold AnsweredRight
  rw [h]
  constructor
  · rintro ⟨hsome, hcorrect⟩
    obtain ⟨o, ho⟩ := Option.isSome_iff_exists.mp hsome
    obtain ⟨hselected, hoption⟩ := Option.filter_eq_some_iff.mp ho
    exact ⟨o, List.contains_iff_mem.mp hoption, by rw [hselected], by rw [← hcorrect, ho]⟩
  · rintro ⟨o, hoption, hselected, hcorrect⟩
    have ho : (gradeSelection k selected).selected = some o :=
      Option.filter_eq_some_iff.mpr ⟨Option.some.inj hselected, List.contains_iff_mem.mpr hoption⟩
    rw [ho, hcorrect]
    exact ⟨rfl, rfl⟩

lemma filter_answered (key : List QuestionKey) (items : List (Int × Option Int)) :
    ((answered key items).filter (·.2.correct)).map (·.1) = key.filter (AnsweredRight items ·) := by
  induction key with
  | nil => rfl
  | cons k key ih =>
    unfold answered at ih ⊢
    rw [List.filter_cons]
    cases hlast : lastAnswer items k.question with
    | none =>
      have hwrong : ¬AnsweredRight items k := by
        rintro ⟨o, -, hselected, -⟩
        rw [hlast] at hselected
        cases hselected
      rw [List.filterMap_cons_none (by simp [hlast]), ih, if_neg (by simpa using hwrong)]
    | some selected =>
      rw [List.filterMap_cons_some (b := (k, gradeSelection k selected)) (by simp [hlast]), List.filter_cons]
      by_cases hright : AnsweredRight items k
      · rw [if_pos ((gradeSelection_right hlast).mpr hright), if_pos (by simpa using hright), List.map_cons, ih]
      · rw [if_neg (mt (gradeSelection_right hlast).mp hright), if_neg (by simpa using hright), ih]

end Rows

section Results

lemma answered_question (key : List QuestionKey) (items : List (Int × Option Int)) :
    (((answered key items).map (·.2)).map (·.question)).Sublist (key.map (·.question)) := by
  induction key with
  | nil => exact .slnil
  | cons k key ih =>
    unfold answered at ih ⊢
    cases hlast : lastAnswer items k.question with
    | none =>
      rw [List.filterMap_cons_none (by simp [hlast])]
      exact ih.cons _
    | some selected =>
      rw [List.filterMap_cons_some (b := (k, gradeSelection k selected)) (by simp [hlast])]
      exact ih.cons_cons _

lemma ranks_question : Ranks fun a b : GradedSelection => decide (a.question ≤ b.question) where
  total a b := by simpa using le_total a.question b.question
  trans a b c := by simpa using le_trans

lemma pairwise_question {rows : List GradedSelection} (distinct : (rows.map (·.question)).Nodup) :
    (sortBy (fun a b => a.question ≤ b.question) rows).Pairwise (·.question < ·.question) := by
  have hsorted := pairwise_sortBy ranks_question rows
  have hdistinct : (sortBy (fun a b => decide (a.question ≤ b.question)) rows).Pairwise
      (·.question ≠ ·.question) :=
    List.pairwise_map.mp (((sortBy_perm rows).map _).nodup_iff.mpr distinct)
  exact hsorted.imp₂ (fun a b hle hne => lt_of_le_of_ne (of_decide_eq_true hle) hne) hdistinct

lemma sortBy_question {rows rows' : List GradedSelection} (h : rows.Perm rows')
    (distinct : (rows.map (·.question)).Nodup) :
    sortBy (fun a b => a.question ≤ b.question) rows = sortBy (fun a b => a.question ≤ b.question) rows' := by
  refine List.Perm.eq_of_pairwise ?_ (pairwise_question distinct)
    (pairwise_question ((h.map _).nodup_iff.mp distinct)) ?_
  · intro a b _ _ hlt hgt
    exact absurd hlt hgt.not_gt
  · exact (sortBy_perm rows).trans (h.trans (sortBy_perm rows').symm)

lemma points_nonneg (points : ∀ k ∈ key, ∃ n, k.points.IsHundredths n) : ∀ k ∈ key, 0 ≤ k.points.value := by
  intro k hk
  obtain ⟨n, -, hn⟩ := points k hk
  rw [hn]
  positivity

lemma sum_points_le (points : ∀ k ∈ key, ∃ n, k.points.IsHundredths n) {part : List QuestionKey}
    (h : part.Sublist key) : (part.map (·.points.value)).sum ≤ (key.map (·.points.value)).sum := by
  refine (h.map _).sum_le_sum fun x hx => ?_
  obtain ⟨k, hk, rfl⟩ := List.mem_map.mp hx
  exact points_nonneg points k hk

lemma sum_of_sublist (points : ∀ k ∈ key, ∃ n, k.points.IsHundredths n)
    (few : (key.map (·.points.value)).sum < 10 ^ 26) (part : List QuestionKey) (h : part.Sublist key) :
    (∀ d ∈ part.map (·.points), ∃ n, d.IsHundredths n) ∧ ((part.map (·.points)).map value).sum < 10 ^ 26 := by
  constructor
  · intro d hd
    obtain ⟨k, hk, rfl⟩ := List.mem_map.mp hd
    exact points k (h.subset hk)
  · rw [List.map_map]
    exact (sum_points_le points h).trans_lt few

lemma grade_eq (distinct : (key.map (·.question)).Nodup) (points : ∀ k ∈ key, ∃ n, k.points.IsHundredths n)
    (few : (key.map (·.points.value)).sum < 10 ^ 26) (items : List (Int × Option Int)) :
    grade key (KeyedList.ofList items) = (do
      let score ← sum ((key.filter (AnsweredRight items ·)).map (·.points))
      let maxScore ← sum (key.map (·.points))
      return ⟨score, maxScore, key.countP (AnsweredRight items ·), key.length,
        sortBy (fun a b => a.question ≤ b.question) ((answered key items).map (·.2))⟩) := by
  have hperm := known_perm items distinct
  have hright : (((known key (KeyedList.ofList items)).filter (·.2.correct)).map (·.1)).Perm
      (key.filter (AnsweredRight items ·)) := by
    rw [← filter_answered]
    exact (hperm.filter _).map _
  have hscore : sum (((known key (KeyedList.ofList items)).filter (·.2.correct)).map (·.1.points)) =
      sum ((key.filter (AnsweredRight items ·)).map (·.points)) := by
    obtain ⟨hhundredths, hfew⟩ :=
      sum_of_sublist points few (key.filter (AnsweredRight items ·)) List.filter_sublist
    have hpoints : ((known key (KeyedList.ofList items)).filter (·.2.correct)).map (·.1.points) =
        (((known key (KeyedList.ofList items)).filter (·.2.correct)).map (·.1)).map (·.points) := by
      rw [List.map_map]
      rfl
    have hsame := (hright.map (·.points)).symm
    rw [hpoints]
    exact (sum_perm hsame hhundredths hfew).symm
  have hcount : ((known key (KeyedList.ofList items)).filter (·.2.correct)).length =
      key.countP (AnsweredRight items ·) := by
    rw [List.countP_eq_length_filter, ← hright.length_eq, List.length_map]
  have hrows : (((known key (KeyedList.ofList items)).map (·.2)).map (·.question)).Nodup :=
    ((hperm.map (·.2)).map (·.question)).nodup_iff.mpr (distinct.sublist (answered_question key items))
  unfold grade
  dsimp only
  rw [hscore, hcount, sortBy_question (hperm.map (·.2)) hrows]

/-- Grading does not tell apart answers of which the last ones are the same. -/
lemma grade_congr (distinct : (key.map (·.question)).Nodup) (points : ∀ k ∈ key, ∃ n, k.points.IsHundredths n)
    (few : (key.map (·.points.value)).sum < 10 ^ 26)
    (same : ∀ k ∈ key, lastAnswer items' k.question = lastAnswer items k.question) :
    grade key (KeyedList.ofList items') = grade key (KeyedList.ofList items) := by
  have hanswered : answered key items' = answered key items :=
    List.filterMap_congr fun k hk => by rw [same k hk]
  have hright : ∀ k ∈ key, decide (AnsweredRight items' k) = decide (AnsweredRight items k) := by
    intro k hk
    refine decide_eq_decide.mpr ?_
    unfold AnsweredRight
    rw [same k hk]
  rw [grade_eq distinct points few, grade_eq distinct points few, hanswered, List.filter_congr hright,
    List.countP_congr fun k hk => by rw [hright k hk]]

end Results

section Answers

lemma lastAnswer_of_overridden (front : List (Int × Option Int)) (q : Int) (s : Option Int)
    (middle : List (Int × Option Int)) (s' : Option Int) (back : List (Int × Option Int)) (question : Int) :
    lastAnswer (front ++ (middle ++ (q, s') :: back)) question =
      lastAnswer (front ++ (q, s) :: (middle ++ (q, s') :: back)) question := by
  unfold lastAnswer KeyedList.get?
  by_cases hq : q = question
  · simp [hq]
  · simp [hq]

lemma lastAnswer_of_known
    (same : items'.filter (·.1 ∈ key.map (·.question)) = items.filter (·.1 ∈ key.map (·.question)))
    (hk : k ∈ key) : lastAnswer items' k.question = lastAnswer items k.question := by
  have hfilter (answers : List (Int × Option Int)) :
      lastAnswer (answers.filter (·.1 ∈ key.map (·.question))) k.question = lastAnswer answers k.question := by
    unfold lastAnswer KeyedList.get?
    rw [← List.filter_reverse, List.find?_filter]
    congr 2
    funext a
    have hquestion : a.1 = k.question → a.1 ∈ key.map (·.question) := fun h => List.mem_map.mpr ⟨k, hk, h.symm⟩
    by_cases ha : a.1 = k.question
    · rw [decide_eq_true (hquestion ha)]
      simp
    · simp [ha]
  rw [← hfilter items', same, hfilter items]

/-- Answers as a list of objects. -/
def answersOf (items : List (Int × Option Int)) : Value :=
  .list (items.map fun a => .object [("question_id", .int a.1), ("selected_answer_id", .ofInt? a.2)])

lemma readAnswers_answersOf (items : List (Int × Option Int)) : readAnswers (answersOf items) = .ok items := by
  unfold answersOf readAnswers
  induction items with
  | nil => rfl
  | cons a items ih =>
    obtain ⟨q, selected⟩ := a
    have hitem : readAnswerItem (.object [("question_id", .int q), ("selected_answer_id", .ofInt? selected)]) =
        .ok (q, selected) := by
      cases selected <;> rfl
    dsimp only at ih ⊢
    rw [List.map_cons, List.mapM_cons, hitem, ih]
    rfl

end Answers

/-- What a breakdown says of the answers that it was made from: a question counts if its last answer selects an
option of it that is the correct one. Each question that is answered has one row, and these are in order. -/
structure Breakdown.Follows (b : Breakdown) (key : List QuestionKey) (items : List (Int × Option Int)) :
    Prop where
  score : b.score.isFinite = true ∧
    b.score.value = ((key.filter (AnsweredRight items ·)).map (·.points.value)).sum
  maxScore : b.maxScore.isFinite = true ∧ b.maxScore.value = (key.map (·.points.value)).sum
  correctCount : b.correctCount = key.countP (AnsweredRight items ·)
  totalCount : b.totalCount = key.length
  bounded : 0 ≤ b.score.value ∧ b.score.value ≤ b.maxScore.value ∧ b.correctCount ≤ b.totalCount
  ordered : b.graded.Pairwise (·.question < ·.question)
  graded : ∀ g, g ∈ b.graded ↔ ∃ k ∈ key, ∃ selected, lastAnswer items k.question = some selected ∧
    g = ⟨k.question, selected.filter (· ∈ k.options), decide (AnsweredRight items k)⟩

lemma gradeSelection_eq {selected : Option Int} (h : lastAnswer items k.question = some selected) :
    gradeSelection k selected =
      ⟨k.question, selected.filter (· ∈ k.options), decide (AnsweredRight items k)⟩ := by
  have hright := gradeSelection_right h
  have hselected : (gradeSelection k selected).selected = selected.filter (· ∈ k.options) := by
    change selected.filter k.options.contains = _
    congr 1
    funext o
    exact List.contains_eq_mem o k.options
  have hcorrect : (gradeSelection k selected).correct = decide (AnsweredRight items k) := by
    rw [Bool.eq_iff_iff, hright, decide_eq_true_iff]
  rw [← hselected, ← hcorrect]
  rfl

lemma grade_follows (distinct : (key.map (·.question)).Nodup) (points : ∀ k ∈ key, ∃ n, k.points.IsHundredths n)
    (few : (key.map (·.points.value)).sum < 10 ^ 26) (items : List (Int × Option Int)) :
    ∃ b, grade key (KeyedList.ofList items) = .ok b ∧ b.Follows key items := by
  obtain ⟨hhundredths, hfew⟩ :=
    sum_of_sublist points few (key.filter (AnsweredRight items ·)) List.filter_sublist
  obtain ⟨hhundredths', hfew'⟩ := sum_of_sublist points few key (List.Sublist.refl key)
  obtain ⟨score, hscore, hscored⟩ := sum_exact hhundredths hfew
  obtain ⟨maxScore, hmax, hmaxed⟩ := sum_exact hhundredths' hfew'
  have hvalue := hscored.value
  have hmaxvalue := hmaxed.value
  rw [List.map_map] at hvalue hmaxvalue
  refine ⟨_, (grade_eq distinct points few items).trans (by rw [hscore, hmax]; rfl), ?_⟩
  refine ⟨⟨?_, hvalue⟩, ⟨?_, hmaxvalue⟩, rfl, rfl, ⟨?_, ?_, List.countP_le_length⟩, ?_, fun g => ?_⟩
  · obtain ⟨c, rfl⟩ := hscored.form
    rfl
  · obtain ⟨c, rfl⟩ := hmaxed.form
    rfl
  · rw [hvalue]
    refine List.sum_nonneg fun x hx => ?_
    obtain ⟨k, hk, rfl⟩ := List.mem_map.mp hx
    exact points_nonneg points k (List.mem_of_mem_filter hk)
  · rw [hvalue, hmaxvalue]
    exact sum_points_le points List.filter_sublist
  · exact pairwise_question (distinct.sublist (answered_question key items))
  · rw [mem_sortBy, List.mem_map]
    constructor
    · rintro ⟨m, hm, rfl⟩
      obtain ⟨hk, selected, hlast, hrow⟩ := mem_answered.mp hm
      exact ⟨m.1, hk, selected, hlast, hrow.trans (gradeSelection_eq hlast)⟩
    · rintro ⟨k, hk, selected, hlast, rfl⟩
      exact ⟨(k, _), mem_answered.mpr ⟨hk, selected, hlast, (gradeSelection_eq hlast).symm⟩, rfl⟩

/-- Answers are reduced to selections and graded against a key whose points are hundredths and have a sum below
`10 ^ 26`: there is a breakdown, it says of each question what the last answer to it says, and the scores are
exact sums. It stays the same when the last answers do, and so when an answer is left out that a later one
overrides, and when answers to unknown questions are added or left out. -/
theorem grading_follows_last_answers (distinct : (key.map (·.question)).Nodup)
    (points : ∀ k ∈ key, ∃ n, k.points.IsHundredths n) (few : (key.map (·.points.value)).sum < 10 ^ 26)
    (items : List (Int × Option Int)) :
    readAnswers (answersOf items) = .ok items ∧
    (∀ v, readAnswers v = .ok items → readSelections v = .ok (KeyedList.ofList items)) ∧
    ∃ b, grade key (KeyedList.ofList items) = .ok b ∧ b.Follows key items ∧
      (∀ items', (∀ k ∈ key, lastAnswer items' k.question = lastAnswer items k.question) →
        grade key (KeyedList.ofList items') = .ok b) ∧
      (∀ front q s middle s' back, items = front ++ (q, s) :: (middle ++ (q, s') :: back) →
        grade key (KeyedList.ofList (front ++ (middle ++ (q, s') :: back))) = .ok b) ∧
      (∀ items', items'.filter (·.1 ∈ key.map (·.question)) = items.filter (·.1 ∈ key.map (·.question)) →
        grade key (KeyedList.ofList items') = .ok b) := by
  obtain ⟨b, hgrade, hfollows⟩ := grade_follows distinct points few items
  have hsame (items' : List (Int × Option Int))
      (h : ∀ k ∈ key, lastAnswer items' k.question = lastAnswer items k.question) :
      grade key (KeyedList.ofList items') = .ok b := (grade_congr distinct points few h).trans hgrade
  refine ⟨readAnswers_answersOf items, ?_, b, hgrade, hfollows, hsame, ?_, ?_⟩
  · intro v hv
    rw [readSelections, hv]
    rfl
  · rintro front q s middle s' back rfl
    exact hsame _ fun k _ => lastAnswer_of_overridden front q s middle s' back k.question
  · intro items' h
    exact hsame _ fun k hk => lastAnswer_of_known h hk

/-- Two questions, of 1 and of 2.50 points. -/
def pairOfKeys : List QuestionKey :=
  [⟨2, .finite false 1 0, some 21, [21, 22]⟩, ⟨1, .finite false 250 (-2), some 12, [11, 12]⟩]

/-- One question is answered twice, the other one with an option of the first, and so is an unknown one. -/
def repeatedAnswers : List (Int × Option Int) := [(1, some 11), (9, some 12), (2, some 11), (1, some 12)]

lemma grade_repeated : grade pairOfKeys (KeyedList.ofList repeatedAnswers) =
    .ok ⟨.finite false 250 (-2), .finite false 350 (-2), 1, 2, [⟨1, some 12, true⟩, ⟨2, none, false⟩]⟩ := by
  decide +kernel

/-- The right answer stands alone once the wrong ones are left out. -/
theorem grading_follows_last_answers_of_repeated :
    grade pairOfKeys (KeyedList.ofList [(9, some 12), (2, some 11), (1, some 12)]) =
      .ok ⟨.finite false 250 (-2), .finite false 350 (-2), 1, 2, [⟨1, some 12, true⟩, ⟨2, none, false⟩]⟩ := by
  have hdistinct : (pairOfKeys.map (·.question)).Nodup := by decide
  have hpoints : ∀ k ∈ pairOfKeys, ∃ n, k.points.IsHundredths n := by
    intro k hk
    rcases List.mem_pair.mp hk with rfl | rfl
    · exact ⟨100, rfl, by norm_num [value_finite, magnitude]⟩
    · exact ⟨250, rfl, magnitude_hundredths 250⟩
  have hfew : (pairOfKeys.map (·.points.value)).sum < 10 ^ 26 := by
    norm_num [pairOfKeys, value_finite, magnitude]
  obtain ⟨-, -, b, hgrade, -, -, hoverridden, -⟩ :=
    grading_follows_last_answers hdistinct hpoints hfew repeatedAnswers
  rw [grade_repeated] at hgrade
  have hleft := hoverridden [] 1 (some 11) [(9, some 12), (2, some 11)] (some 12) [] rfl
  exact hleft.trans hgrade.symm

end Quiz

end Assessment
