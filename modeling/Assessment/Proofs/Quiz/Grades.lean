import Assessment.Proofs.Number.Sums
import Assessment.Proofs.Sorting

/-!
# What grading finds

A submission selects at most once for each question, and so does what is graded of it. The right answers
are among the questions of the key; when all points are hundredths, the scores are their exact sums.
-/

namespace Assessment

namespace KeyedList

variable {κ α : Type} [DecidableEq κ]

lemma put_keys (key : κ) (v : α) (pairs : List (κ × α)) :
    (put key v pairs).map Prod.fst =
      if key ∈ pairs.map Prod.fst then pairs.map Prod.fst else pairs.map Prod.fst ++ [key] := by
  induction pairs with
  | nil => rfl
  | cons p pairs ih =>
    obtain ⟨k, w⟩ := p
    rw [put]
    by_cases hk : k = key
    · rw [if_pos hk, List.map_cons, List.map_cons, if_pos (by simp [hk])]
    · rw [if_neg hk, List.map_cons, List.map_cons, ih]
      by_cases hmem : key ∈ pairs.map Prod.fst
      · rw [if_pos hmem, if_pos (List.mem_cons_of_mem _ hmem)]
      · rw [if_neg hmem, if_neg (by simp_all [Ne.symm hk]), List.cons_append]

lemma put_nodup {key : κ} {v : α} {pairs : List (κ × α)} (h : (pairs.map Prod.fst).Nodup) :
    ((put key v pairs).map Prod.fst).Nodup := by
  rw [put_keys]
  by_cases hmem : key ∈ pairs.map Prod.fst
  · rwa [if_pos hmem]
  · rw [if_neg hmem, ← List.concat_eq_append]
    exact h.concat hmem

lemma ofList_nodup (pairs : List (κ × α)) : ((ofList pairs).map Prod.fst).Nodup := by
  unfold ofList
  induction pairs using List.reverseRecOn with
  | nil => exact List.nodup_nil
  | append_singleton pairs p ih =>
    rw [List.foldl_append]
    exact put_nodup ih

end KeyedList

namespace Quiz

open Number Decimal

variable {key : List QuestionKey} {submitted : Selections}

lemma readSelections_nodup {v : Value} (h : readSelections v = .ok submitted) :
    (submitted.map Prod.fst).Nodup := by
  obtain ⟨answers, -, rfl⟩ := map_eq_ok.mp h
  exact KeyedList.ofList_nodup answers

lemma mem_known {m : QuestionKey × GradedSelection} (h : m ∈ known key submitted) :
    m.1 ∈ key ∧ ∃ selected, m.2 = gradeSelection m.1 selected := by
  obtain ⟨⟨question, selected⟩, -, hm⟩ := List.mem_filterMap.mp h
  obtain ⟨k, hk, rfl⟩ := Option.map_eq_some_iff.mp hm
  exact ⟨List.mem_of_find?_eq_some hk, selected, rfl⟩

lemma known_sublist : ((known key submitted).map (·.1.question)).Sublist (submitted.map Prod.fst) := by
  induction submitted with
  | nil => exact .slnil
  | cons p submitted ih =>
    obtain ⟨question, selected⟩ := p
    unfold known at ih ⊢
    cases hf : key.find? (·.question == question) with
    | none =>
      rw [List.filterMap_cons_none (by simp [hf])]
      exact ih.cons _
    | some k =>
      have hk : k.question = question := by simpa using List.find?_some hf
      rw [List.filterMap_cons_some (b := (k, gradeSelection k selected)) (by simp [hf]), List.map_cons,
        List.map_cons, hk]
      exact ih.cons_cons _

/-- What a graded selection says of a question of the key. -/
structure Marks (k : QuestionKey) (g : GradedSelection) : Prop where
  question : g.question = k.question
  selected : ∀ o, g.selected = some o → o ∈ k.options
  correct : g.correct = true ↔ g.selected.isSome ∧ g.selected = k.correct

lemma gradeSelection_marks (k : QuestionKey) (selected : Option Int) :
    Marks k (gradeSelection k selected) where
  question := rfl
  selected o ho := List.contains_iff_mem.mp (Option.filter_eq_some_iff.mp ho).2
  correct := by simp [gradeSelection]

/-- What a breakdown says of the key that it was made with. -/
structure Breakdown.Fits (b : Breakdown) (key : List QuestionKey) : Prop where
  distinct : (b.graded.map (·.question)).Nodup
  marks : ∀ g ∈ b.graded, ∃ k ∈ key, Marks k g
  correctCount : b.correctCount = b.graded.countP (·.correct)
  totalCount : b.totalCount = key.length
  /-- The questions that were answered correctly, of which the score is the sum. -/
  score : ∃ right : List QuestionKey, right ⊆ key ∧ sum (right.map (·.points)) = .ok b.score ∧
    (right.map (·.question)).Perm ((b.graded.filter (·.correct)).map (·.question))
  maxScore : sum (key.map (·.points)) = .ok b.maxScore

lemma grade_fits (distinct : (submitted.map Prod.fst).Nodup) {b : Breakdown}
    (h : grade key submitted = .ok b) : b.Fits key := by
  simp only [grade, bind_eq_ok, pure_eq_ok] at h
  obtain ⟨score, hscore, maxScore, hmax, rfl⟩ := h
  have hperm : (sortBy (fun a b => a.question ≤ b.question) ((known key submitted).map (·.2))).Perm
      ((known key submitted).map (·.2)) := sortBy_perm _
  have hquestion : ((known key submitted).map (·.2)).map (·.question) =
      (known key submitted).map (·.1.question) := by
    rw [List.map_map]
    refine List.map_congr_left fun m hm => ?_
    obtain ⟨-, selected, hmark⟩ := mem_known hm
    rw [Function.comp_apply, hmark]
    rfl
  let right := ((known key submitted).filter (·.2.correct)).map (·.1)
  have hright : sum (right.map (·.points)) = .ok score := by rwa [List.map_map]
  refine ⟨?_, fun g hg => ?_, ?_, rfl, ⟨right, fun k hk => ?_, hright, ?_⟩, hmax⟩
  · rw [(hperm.map _).nodup_iff, hquestion]
    exact distinct.sublist known_sublist
  · obtain ⟨m, hm, rfl⟩ := List.mem_map.mp (hperm.mem_iff.mp hg)
    obtain ⟨hkey, selected, hmark⟩ := mem_known hm
    exact ⟨m.1, hkey, hmark ▸ gradeSelection_marks m.1 selected⟩
  · rw [hperm.countP_eq, List.countP_map, List.countP_eq_length_filter]
    rfl
  · obtain ⟨m, hm, rfl⟩ := List.mem_map.mp hk
    exact (mem_known (List.mem_filter.mp hm).1).1
  · refine .trans ?_ ((hperm.filter _).map _).symm
    rw [List.filter_map, List.map_map, List.map_map]
    refine .of_eq (List.map_congr_left fun m hm => ?_)
    obtain ⟨-, selected, hmark⟩ := mem_known (List.mem_filter.mp hm).1
    simp only [Function.comp_apply, hmark]
    rfl

lemma Breakdown.Fits.stored {b : Breakdown} (h : b.Fits key)
    (points : ∀ k ∈ key, Amount.Fitting k.points) (few : key.length ≤ 10 ^ 10) :
    ∃ score maxScore, Amount.ofDecimal? b.score = some score ∧
      Amount.ofDecimal? b.maxScore = some maxScore ∧
      b.score.sameValue score.toDecimal = true ∧ b.maxScore.sameValue maxScore.toDecimal = true ∧
      0 ≤ score.toDecimal.value ∧ score.toDecimal.value ≤ maxScore.toDecimal.value ∧
      maxScore.toDecimal.value = (key.map (·.points.value)).sum ∧
      ∃ right : List QuestionKey, right ⊆ key ∧
        score.toDecimal.value = (right.map (·.points.value)).sum ∧
        (right.map (·.question)).Perm ((b.graded.filter (·.correct)).map (·.question)) := by
  obtain ⟨right, hsubset, hscore, hperm⟩ := h.score
  have hright : right.Nodup := by
    refine List.Nodup.of_map (·.question) (hperm.nodup_iff.mpr ?_)
    exact h.distinct.sublist (List.filter_sublist.map _)
  obtain ⟨part, hpart, hsub⟩ := hright.subperm hsubset
  have hlength : (right.map (·.points)).length ≤ 10 ^ 10 := by
    rw [List.length_map, ← hpart.length_eq]
    exact hsub.length_le.trans few
  have hfitting {ks : List QuestionKey} (hks : ks ⊆ key) :
      ∀ d ∈ ks.map (·.points), Amount.Fitting d := by
    intro d hd
    obtain ⟨k, hk, rfl⟩ := List.mem_map.mp hd
    exact points k (hks hk)
  obtain ⟨score, hs, hssame, hsvalue⟩ := Amount.sum_stored (hfitting hsubset) hlength hscore
  obtain ⟨maxScore, hm, hmsame, hmvalue⟩ := Amount.sum_stored (hfitting (List.Subset.refl key))
    ((List.length_map _).trans_le few) h.maxScore
  have hnonneg (k : QuestionKey) (hk : k ∈ key) : 0 ≤ k.points.value := (points k hk).value_nonneg
  rw [List.map_map] at hsvalue hmvalue
  refine ⟨score, maxScore, hs, hm, hssame, hmsame, ?_, ?_, hmvalue, right, hsubset, hsvalue, hperm⟩
  · rw [hsvalue]
    refine List.sum_nonneg fun x hx => ?_
    obtain ⟨k, hk, rfl⟩ := List.mem_map.mp hx
    exact hnonneg k (hsubset hk)
  · rw [hsvalue, hmvalue, ← (hpart.map _).sum_eq]
    refine (hsub.map _).sum_le_sum fun x hx => ?_
    obtain ⟨k, hk, rfl⟩ := List.mem_map.mp hx
    exact hnonneg k hk

end Quiz

end Assessment
