import Assessment.Proofs.Attempt.Records
import Assessment.Proofs.Quiz.Soundness

/-!
# The scores of attempts

A submitted attempt has at most one selection for each question of its quiz, and its score is the exact
sum of the points of those that are correct.
-/

namespace Assessment

open Number

/-- The points of a question; a question that does not exist has none. -/
def Store.pointsOf (s : Store) (question : Int) : ℚ :=
  ((Table.find? question s.questions).map (·.points.toDecimal.value)).getD 0

namespace Attempting

open Quiz Table

/-- A selection is of a question of the quiz, selects one of its options or none, and is correct when it
selects the correct one. -/
structure SoundSelection (s : Store) (quiz : Int) (r : Selection) : Prop where
  question : ∃ k ∈ s.questionsOf quiz, k.id = r.question
  selected : ∀ o, r.selected = some o → ∃ x ∈ s.optionsOf r.question, x.id = o
  correct : r.correct = true ↔ ∃ x ∈ s.optionsOf r.question, x.correct = true ∧ r.selected = some x.id

/-- The record of a submitted attempt agrees with its selections and with its quiz. -/
structure Scored (s : Store) (q : Quiz) (a : Attempt) : Prop where
  distinct : ((s.selectionsOf a.id).map (·.question)).Nodup
  selections : ∀ r ∈ s.selectionsOf a.id, SoundSelection s q.id r
  correctCount : a.correctCount = some ((s.selectionsOf a.id).countP (·.correct))
  totalCount : a.totalCount = some (s.questionsOf q.id).length
  score : ∃ score maxScore : Amount, a.score = some score ∧ a.maxScore = some maxScore ∧
    score.toDecimal.value =
      (((s.selectionsOf a.id).filter (·.correct)).map fun r => s.pointsOf r.question).sum ∧
    maxScore.toDecimal.value = ((s.questionsOf q.id).map (·.points.toDecimal.value)).sum ∧
    0 ≤ score.toDecimal.value ∧ score.toDecimal.value ≤ maxScore.toDecimal.value
  late : a.late = true ↔
    ∃ ends t, q.endTimeFrom a.startedAt = .ok (some ends) ∧ a.submittedAt = some t ∧ ends < t

/-- An attempt as it stands in the store with its quiz and its selections. -/
structure Sound (s : Store) (q : Quiz) (a : Attempt) : Prop extends Admitted s.enrollments q a where
  running : a.status = .inProgress → s.selectionsOf a.id = [] ∧ a.score = none
  scored : a.status = .submitted → Scored s q a

section Keys

variable {s : Store} {q : Quiz}

lemma keyOf_correct {k : Question} (h : SoundQuestion k (s.optionsOf k.id)) :
    ∃ o, (s.optionsOf k.id).filter (·.correct) = [o] ∧ (keyOf s k).correct = some o.id := by
  have hone := h.one
  rw [List.countP_eq_length_filter] at hone
  obtain ⟨o, ho⟩ := List.length_eq_one_iff.mp hone
  refine ⟨o, ho, ?_⟩
  unfold keyOf
  dsimp only
  rw [ho]

lemma soundSelection_of_marks {k : Question} (hk : k ∈ s.questionsOf q.id)
    (h : SoundQuestion k (s.optionsOf k.id)) {r : Selection} (hm : Marks (keyOf s k) r.graded) :
    SoundSelection s q.id r := by
  have hquestion : r.question = k.id := hm.question
  refine ⟨⟨k, hk, hquestion.symm⟩, fun o ho => ?_, ?_⟩
  · obtain ⟨x, hx, hid⟩ := List.mem_map.mp (hm.selected o ho)
    exact ⟨x, hquestion ▸ hx, hid⟩
  · obtain ⟨o, ho, hcorrect⟩ := keyOf_correct h
    have hmem (x : AnswerOption) : x ∈ s.optionsOf k.id ∧ x.correct = true ↔ x = o := by
      rw [← List.mem_filter, ho, List.mem_singleton]
    have hmarks : r.correct = true ↔ r.selected.isSome ∧ r.selected = some o.id :=
      hcorrect ▸ hm.correct
    rw [hmarks, hquestion]
    constructor
    · rintro ⟨-, hselected⟩
      obtain ⟨hx, hc⟩ := (hmem o).mpr rfl
      exact ⟨o, hx, hc, hselected⟩
    · rintro ⟨x, hx, hc, hselected⟩
      rw [(hmem x).mp ⟨hx, hc⟩] at hselected
      exact ⟨by simp [hselected], hselected⟩

lemma fitting_of_le {d : Decimal} (h : ∃ n, d = .finite false n (-2)) (small : d.value ≤ 999.99) :
    Amount.Fitting d := by
  obtain ⟨n, rfl⟩ := h
  refine ⟨n, ?_, rfl⟩
  rw [Decimal.value_finite, if_neg Bool.false_ne_true, Decimal.magnitude] at small
  have hn : (n : ℚ) ≤ 99999 := by
    norm_num at small
    linarith
  exact_mod_cast hn

lemma pointsOf_eq (hn : Numbered s.questions) {k : Question} (hk : k ∈ s.questions) :
    s.pointsOf k.id = k.points.toDecimal.value := by
  have hfind : Table.find? k.id s.questions = some k := find?_of_mem hn hk
  rw [Store.pointsOf, hfind]
  rfl

end Keys

section Reachable

variable {P : Context → Service → Prop} {s : Store} {q : Quiz} {a : Attempt}

lemma kept_of_reachable (h : Reachable P s) (registered : ∀ ctx op, P ctx op → ctx.directory? = none) :
    Kept s := by
  refine (h.invariant (I := fun s => Quiz.Integrity s ∧ Kept s) (fun users sections enrollments => ?_)
    fun ctx op s s' hop hk w => ⟨hk.1.step w, hk.2.step hk.1 (registered ctx op hop) w⟩).2
  exact ⟨Quiz.integrity_ofSchool users sections enrollments, .nil, .nil, List.nodup_nil,
    fun a ha => absurd ha List.not_mem_nil⟩

lemma late_iff {b : Breakdown} {ends : Option Time.Instant} {t : Time.Instant}
    (ending : q.endTimeFrom a.startedAt = .ok ends) :
    let a := submitted b (ends.any (· < t)) t a
    a.late = true ↔
      ∃ e u, q.endTimeFrom a.startedAt = .ok (some e) ∧ a.submittedAt = some u ∧ e < u := by
  intro a
  constructor
  · intro hlate
    obtain ⟨e, rfl, he⟩ := (Option.any_eq_true _ _).mp hlate
    exact ⟨e, t, ending, rfl, of_decide_eq_true he⟩
  · rintro ⟨e, u, hends, hu, he⟩
    obtain rfl : ends = some e := Except.ok.inj (ending.symm.trans hends)
    obtain rfl : t = u := Option.some.inj hu
    exact decide_eq_true he

lemma answerKey_fitting {quiz : Int}
    (hundredths : ∀ k ∈ s.questionsOf quiz, ∃ n, k.points.toDecimal = .finite false n (-2))
    (points : ∀ k ∈ s.questionsOf quiz, k.points.toDecimal.value ≤ 999.99) :
    ∀ k ∈ answerKey s quiz, Amount.Fitting k.points := by
  intro k hk
  obtain ⟨x, hx, rfl⟩ := List.mem_map.mp hk
  exact fitting_of_le (hundredths x hx) (points x hx)

lemma points_of_key (hn : Numbered s.questions) {ks : List QuestionKey} (h : ks ⊆ answerKey s q.id) :
    ks.map (·.points.value) = (ks.map (·.question)).map s.pointsOf := by
  rw [List.map_map]
  refine List.map_congr_left fun k hk => ?_
  obtain ⟨x, hx, rfl⟩ := List.mem_map.mp (h hk)
  exact (pointsOf_eq hn (mem_questionsOf.mp hx).1).symm

/-- A record that follows from the key of a sound quiz agrees with the selections and the questions. -/
lemma Recorded.scored (hn : Numbered s.questions) (quiz : Quiz.Sound s q) (total : q.total ≤ 30)
    (points : ∀ k ∈ s.questions, k.points.toDecimal.value ≤ 999.99)
    (h : Recorded q (answerKey s q.id) a (s.selectionsOf a.id)) (status : a.status = .submitted) :
    Scored s q a := by
  generalize hrows : s.selectionsOf a.id = rows at h
  cases h with
  | running running => cases running.symm.trans status
  | @submitted _ _ selections b ends t distinct graded ending contents =>
    have hfits := grade_fits distinct graded
    have hquestions : rows.map (·.question) = b.graded.map (·.question) := by
      rw [← contents, List.map_map]
      rfl
    have hcorrect : (b.graded.filter (·.correct)).map (·.question) =
        (rows.filter (·.correct)).map (·.question) := by
      rw [← contents, List.filter_map, List.map_map]
      rfl
    have hfew : (answerKey s q.id).length ≤ 10 ^ 10 := by
      have := quiz.settled.room
      rw [answerKey, List.length_map]
      omega
    have hfitting := answerKey_fitting (fun x hx => (quiz.questions x hx).hundredths)
      fun x hx => points x (mem_questionsOf.mp hx).1
    obtain ⟨score, maxScore, hscore, hmax, -, -, hnonneg, hle, hmaxValue, right, hright, hvalue, hperm⟩ :=
      hfits.stored hfitting hfew
    rw [hcorrect] at hperm
    refine ⟨?_, fun r hr => ?_, ?_, ?_, ⟨score, maxScore, hscore, hmax, ?_, ?_, hnonneg, hle⟩,
      late_iff ending⟩
    · rw [hrows, hquestions]
      exact hfits.distinct
    · rw [hrows] at hr
      obtain ⟨k, hk, hm⟩ := hfits.marks r.graded (contents ▸ List.mem_map_of_mem hr)
      obtain ⟨x, hx, rfl⟩ := List.mem_map.mp hk
      exact soundSelection_of_marks hx (quiz.questions x hx) hm
    · change some b.correctCount = _
      rw [hrows, hfits.correctCount, ← contents, List.countP_map]
      rfl
    · change some b.totalCount = _
      rw [hfits.totalCount, answerKey, List.length_map]
    · rw [hvalue, points_of_key hn hright, (hperm.map _).sum_eq, hrows, List.map_map]
      rfl
    · rw [hmaxValue, answerKey, List.map_map]
      rfl

/-- Whatever is asked of the program, if it takes the registration tables as its directory and allows no
more than thirty questions, as the standard totals do: a student has at most one attempt at a quiz; the
attempt is at a quiz that was published, in its window, by an enrolled student of its section; nothing is
recorded of it while it is in progress; and once it is submitted, its record agrees with its selections
and its quiz, if no question has more than 999.99 points. -/
theorem attempts_stay_sound
    (h : Reachable (fun ctx _ => ctx.settings.AllowsOnly (fun n => 0 ≤ n ∧ n ≤ 30) ∧
      ctx.directory? = none) s)
    (points : ∀ k ∈ s.questions, k.points.toDecimal.value ≤ 999.99) :
    (s.attempts.map fun a => (a.quiz, a.student)).Nodup ∧
      ∀ a ∈ s.attempts, ∃ q ∈ s.quizzes, Sound s q a := by
  have htotals : ∀ q ∈ s.quizzes, 0 ≤ q.total ∧ q.total ≤ 30 :=
    totals_of_reachable h fun _ _ hop => hop.1
  have hquizzes := Quiz.kept_of_reachable h fun _ _ hop => hop.1.mono fun _ hn => hn.1
  have hk := kept_of_reachable h fun _ _ hop => hop.2
  refine ⟨hk.once, fun a ha => ?_⟩
  obtain ⟨q, hq, hadmitted, hrecorded⟩ := hk.stands a ha
  have hrunning (running : a.status = .inProgress) := hrecorded.running_eq running
  exact ⟨q, hq, hadmitted, hrunning,
    hrecorded.scored hquizzes.questions (hquizzes.allSound q hq) (htotals q hq).2 points⟩

end Reachable

/-- The store after a quiz of ten questions is published and two students have begun it, of whom one has
submitted a right and a wrong answer. -/
def begunAndSubmitted : Store :=
  let start := Scenario.State.start .standard
  let teacher : Access.Caller := ⟨.int 1, "TEACHER"⟩
  let option (text : String) (correct : Bool) : Value :=
    .object [("answer_text", .text text), ("is_correct", .bool correct)]
  let question : Quiz.QuestionRequest :=
    ⟨.text "1 + 1 = 2", .text "TRUE_FALSE", .int 1, .list [option "True" true, option "False" false]⟩
  let answer (question selected : Int) : Value :=
    .object [("question_id", .int question), ("selected_answer_id", .int selected)]
  start.context.serve
    ([.call (.createDraft teacher
        ⟨.int 1, .text "Sums", .int 10, .null, .null, .null, .null, .null, .null⟩)] ++
      List.replicate 10 (.call (.addQuestion teacher (.int 1) question)) ++
      [.call (.publish teacher (.int 1) .null .null),
        .call (.startAttempt ⟨.int 4, "STUDENT"⟩ (.int 1) .null),
        .call (.startAttempt ⟨.int 5, "STUDENT"⟩ (.int 1) .null),
        .call (.submitAttempt ⟨.int 4, "STUDENT"⟩ (.int 1) (.list [answer 1 1, answer 2 4]) .null .null)])
    start.store

/-- A submitted attempt agrees with its quiz, and one in progress has nothing recorded. -/
theorem attempts_stay_sound_of_submitted :
    let s := begunAndSubmitted
    (∃ a ∈ s.attempts, a.status = .submitted ∧ a.correctCount = some 1 ∧
        (s.selectionsOf a.id).length = 2 ∧ ∃ q ∈ s.quizzes, Sound s q a) ∧
      ∃ a ∈ s.attempts, a.status = .inProgress ∧ ∃ q ∈ s.quizzes, Sound s q a := by
  intro s
  have hstandard : Settings.standard.AllowsOnly fun n => 0 ≤ n ∧ n ≤ 30 :=
    Settings.allowsOnly_standard rfl
  have h : Reachable (fun ctx _ => ctx.settings.AllowsOnly (fun n => 0 ≤ n ∧ n ≤ 30) ∧
      ctx.directory? = none) s := .serve (fun _ _ => ⟨hstandard, rfl⟩) _ _ _
  have hpoints : ∀ k ∈ s.questions, k.points.toDecimal = .finite false 100 (-2) := by decide +kernel
  have hsmall : ∀ k ∈ s.questions, k.points.toDecimal.value ≤ 999.99 := by
    intro k hk
    rw [hpoints k hk, Decimal.value_finite, Decimal.magnitude]
    norm_num
  obtain ⟨-, hsound⟩ := attempts_stay_sound h hsmall
  have ha : ∃ a ∈ s.attempts, a.status = .submitted ∧ a.correctCount = some 1 ∧
      (s.selectionsOf a.id).length = 2 := by decide +kernel
  have hb : ∃ a ∈ s.attempts, a.status = .inProgress := by decide +kernel
  obtain ⟨a, ha, hsubmitted, hcount, hrows⟩ := ha
  obtain ⟨b, hb, hrunning⟩ := hb
  exact ⟨⟨a, ha, hsubmitted, hcount, hrows, hsound a ha⟩, b, hb, hrunning, hsound b hb⟩

end Attempting

end Assessment
