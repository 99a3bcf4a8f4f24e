import Assessment.Proofs.Runs

/-!
# The quiz tables hang together

Quizzes, questions and options are numbered, every question is of a quiz, and every option of a
question.
-/

namespace Assessment.Quiz

open Table

/-- The quiz tables are numbered and refer to rows that exist. -/
structure Integrity (s : Store) : Prop where
  quizzes : Numbered s.quizzes
  questions : Numbered s.questions
  options : Numbered s.options
  questionQuiz : Refers Question.quiz s.questions s.quizzes
  optionQuestion : Refers AnswerOption.question s.options s.questions

section Rows

variable {question : Int} {options : List (String × Bool)}

lemma optionRows_id : ∀ make ∈ optionRows question options, ∀ n, Row.id (make n) = n := by
  intro make hmake n
  obtain ⟨⟨text, correct⟩, -, rfl⟩ := List.mem_map.mp hmake
  rfl

lemma optionRows_question : ∀ make ∈ optionRows question options, ∀ n, (make n).question = question := by
  intro make hmake n
  obtain ⟨⟨text, correct⟩, -, rfl⟩ := List.mem_map.mp hmake
  rfl

lemma placed_id (ordered : List Question) (k : Question) : (placed ordered k).id = k.id := by
  unfold placed
  split <;> rfl

lemma placed_quiz (ordered : List Question) (k : Question) : (placed ordered k).quiz = k.quiz := by
  unfold placed
  split <;> rfl

lemma placed_kind (ordered : List Question) (k : Question) : (placed ordered k).kind = k.kind := by
  unfold placed
  split <;> rfl

lemma placed_points (ordered : List Question) (k : Question) :
    (placed ordered k).points = k.points := by
  unfold placed
  split <;> rfl

end Rows

section Steps

variable {ctx : Context} {s s' : Store} {op : Service}

lemma refers_append_options (h : Refers AnswerOption.question s.options s.questions) {question : Int}
    (known : ∃ k ∈ s.questions, k.id = question) (options : List (String × Bool)) :
    Refers AnswerOption.question (append s.options (optionRows question options)) s.questions := by
  intro o ho
  rcases mem_append ho with ho | ⟨make, hmake, n, rfl⟩
  · exact h o ho
  · rw [optionRows_question make hmake]
    exact known

lemma Integrity.changeQuiz (hi : Integrity s) (id : Int) {f : Quiz → Quiz} (hf : ∀ q, (f q).id = q.id) :
    Integrity { s with quizzes := modify id f s.quizzes } :=
  { hi with
    quizzes := hi.quizzes.modify id hf
    questionQuiz := hi.questionQuiz.modify_target id hf }

lemma Integrity.ask (hi : Integrity s) {q : Quiz} (hq : q ∈ s.quizzes) (c : CheckedQuestion) :
    Integrity (withQuestion q c s) where
  quizzes := hi.quizzes
  questions := hi.questions.concat rfl
  options := hi.options.append optionRows_id
  questionQuiz := hi.questionQuiz.concat ⟨q, hq, rfl⟩
  optionQuestion := by
    have hold : Refers AnswerOption.question s.options (withQuestion q c s).questions :=
      hi.optionQuestion.concat_target _
    have hnew : ∃ k ∈ (withQuestion q c s).questions, k.id = nextId s.questions :=
      ⟨_, List.mem_append_right _ (List.mem_singleton_self _), rfl⟩
    exact refers_append_options (s := { withQuestion q c s with options := s.options }) hold hnew _

lemma Integrity.rephrase (hi : Integrity s) {k : Question} (hk : k ∈ s.questions)
    (c : CheckedQuestion) :
    Integrity { s with
      questions := modify k.id (withContent c) s.questions
      options := replacedOptions k.id c s.options } where
  quizzes := hi.quizzes
  questions := hi.questions.modify k.id fun _ => rfl
  options := (hi.options.append optionRows_id).filter _
  questionQuiz := hi.questionQuiz.modify k.id fun _ => rfl
  optionQuestion := by
    have hall := refers_append_options hi.optionQuestion ⟨k, hk, rfl⟩ c.options
    exact (hall.subset (List.filter_subset_self _)).modify_target k.id fun _ => rfl

lemma Integrity.strike (hi : Integrity s) (k : Question) : Integrity (withoutQuestion k s) where
  quizzes := hi.quizzes
  questions := (hi.questions.remove k.id).map (placed_id _)
  options := hi.options.filter _
  questionQuiz := by
    intro x hx
    obtain ⟨y, hy, rfl⟩ := List.mem_map.mp hx
    rw [placed_quiz]
    exact hi.questionQuiz y (List.mem_filter.mp hy).1
  optionQuestion := by
    intro o ho
    obtain ⟨ho, hne⟩ := List.mem_filter.mp ho
    obtain ⟨x, hx, hid⟩ := hi.optionQuestion o ho
    refine ⟨_, List.mem_map_of_mem (List.mem_filter.mpr ⟨hx, ?_⟩), (placed_id _ x).trans hid⟩
    rw [hid]
    exact hne

lemma Integrity.discard (hi : Integrity s) (quiz : Int) : Integrity (withoutQuiz quiz s) where
  quizzes := hi.quizzes.remove quiz
  questions := hi.questions.filter _
  options := hi.options.filter _
  questionQuiz := by
    intro k hk
    obtain ⟨hk, hne⟩ := List.mem_filter.mp hk
    obtain ⟨q, hq, hid⟩ := hi.questionQuiz k hk
    refine ⟨q, List.mem_filter.mpr ⟨hq, ?_⟩, hid⟩
    rw [hid]
    exact hne
  optionQuestion := by
    intro o ho
    obtain ⟨ho, hkept⟩ := List.mem_filter.mp ho
    obtain ⟨k, hk, hid⟩ := hi.optionQuestion o ho
    refine ⟨k, List.mem_filter.mpr ⟨hk, ?_⟩, hid⟩
    by_contra hquiz
    have hgone : o.question ∈ (s.questions.filter (·.quiz == quiz)).map (·.id) :=
      List.mem_map.mpr ⟨k, List.mem_filter.mpr ⟨hk, by simpa using hquiz⟩, hid⟩
    simp_all

lemma Integrity.write (hi : Integrity s) {c : Call} (w : Write ctx s c s') : Integrity s' := by
  cases w with
  | draft =>
    exact { hi with
      quizzes := hi.quizzes.concat rfl
      questionQuiz := hi.questionQuiz.concat_target _ }
  | ask found => exact hi.ask (owned_eq_ok found).1 _
  | rephrase found => exact hi.rephrase (ownedQuestion_eq_ok found).1 _
  | strike => exact hi.strike _
  | discard => exact hi.discard _
  | publish => exact hi.changeQuiz _ fun _ => rfl
  | close => exact hi.changeQuiz _ fun _ => rfl

lemma Integrity.step (hi : Integrity s) (w : Step ctx s op s') : Integrity s' := by
  cases w with
  | quiz w => exact hi.write w
  | attempt w | book w | opening _ w | posting _ w | queueing _ w =>
    rw [w.frame]
    exact { hi with }

end Steps

lemma integrity_ofSchool (users : List User) (classSections : List ClassSection)
    (enrollments : List Enrollment) : Integrity (.ofSchool users classSections enrollments) :=
  ⟨.nil, .nil, .nil, .nil, .nil⟩

end Assessment.Quiz
