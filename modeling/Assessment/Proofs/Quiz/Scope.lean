import Assessment.Proofs.Permissions
import Assessment.Proofs.Quiz.Contents

/-!
# How far calls on quizzes reach

A call on a quiz is made by the teacher of its section. It shows in that quiz alone: when the quiz is taken
away, with its questions and their options, what is left is the same before and after the call.
-/

namespace Assessment

open Access

/-- What a call on a quiz names: the section that it drafts a quiz for, the quiz, or one of its questions. -/
inductive QuizTarget where
  | classSection (v : Value)
  | quiz (v : Value)
  | question (v : Value)

/-- Who makes a call that may change a quiz, and what it names. -/
def Call.quizTarget? : Call → Option (Caller × QuizTarget)
  | createDraft caller r => some (caller, .classSection r.classSection)
  | addQuestion caller quiz _ | deleteQuiz caller quiz | publish caller quiz _ _ | close caller quiz =>
    some (caller, .quiz quiz)
  | updateQuestion caller question _ | deleteQuestion caller question => some (caller, .question question)
  | _ => none

namespace Quiz

open Request Table

/-- The quiz that a call is about: a new one of the section that is named, or the one that is named itself or
by a question. -/
def IsNamed (s s' : Store) (q : Quiz) : QuizTarget → Prop
  | .classSection v =>
    q ∈ s'.quizzes ∧ q.id = nextId s.quizzes ∧ readPositive "Class section id" v = .ok q.classSection
  | .quiz v => q ∈ s.quizzes ∧ readPositive "Quiz id" v = .ok q.id
  | .question v => q ∈ s.quizzes ∧
      ∃ k ∈ s.questions, k.quiz = q.id ∧ readPositive "Question id" v = .ok k.id

section Rest

variable {s s' : Store} {quiz : Int}

/-- Is an option one of a question of a quiz? -/
def isOffered (quiz : Int) (questions : List Question) (o : AnswerOption) : Bool :=
  has o.question (questions.filter (·.quiz == quiz))

lemma isOffered_iff {questions : List Question} {o : AnswerOption} :
    isOffered quiz questions o = true ↔ ∃ k ∈ questions, k.quiz = quiz ∧ k.id = o.question := by
  simp [isOffered, has_iff, Row.id, and_assoc]

lemma withoutQuiz_options (quiz : Int) (s : Store) :
    (withoutQuiz quiz s).options = s.options.filter fun o => !isOffered quiz s.questions o := by
  refine List.filter_congr fun o _ => congrArg (!·) ?_
  rw [Bool.eq_iff_iff, isOffered_iff, List.contains_iff_mem]
  simp [and_assoc]

lemma withoutQuiz_congr
    (frame : s' = { s with quizzes := s'.quizzes, questions := s'.questions, options := s'.options })
    (quizzes : (s'.quizzes.filter fun q => !(q.id == quiz)) = s.quizzes.filter fun q => !(q.id == quiz))
    (questions : (s'.questions.filter fun k => !(k.quiz == quiz)) =
      s.questions.filter fun k => !(k.quiz == quiz))
    (options : (s'.options.filter fun o => !isOffered quiz s'.questions o) =
      s.options.filter fun o => !isOffered quiz s.questions o) :
    withoutQuiz quiz s' = withoutQuiz quiz s := by
  have hoptions : (withoutQuiz quiz s').options = (withoutQuiz quiz s).options := by
    rw [withoutQuiz_options, withoutQuiz_options, options]
  have hparts (t : Store) : withoutQuiz quiz t = { t with
      quizzes := t.quizzes.filter fun q => !(q.id == quiz)
      questions := t.questions.filter fun k => !(k.quiz == quiz)
      options := (withoutQuiz quiz t).options } := rfl
  rw [hparts s', hparts s, hoptions, quizzes, questions, frame]

lemma withoutQuiz_draft (q : Quiz) (s : Store) :
    withoutQuiz q.id { s with quizzes := s.quizzes ++ [q] } = withoutQuiz q.id s :=
  withoutQuiz_congr rfl (filter_not_append (by simp)) rfl rfl

lemma withoutQuiz_ask (hi : Integrity s) (q : Quiz) (c : CheckedQuestion) :
    withoutQuiz q.id (withQuestion q c s) = withoutQuiz q.id s := by
  refine withoutQuiz_congr rfl rfl (filter_not_append (by simp)) ?_
  have hnew : ∀ o ∈ newOptions (nextId s.questions) (nextId s.options) c.options,
      isOffered q.id (withQuestion q c s).questions o = true := by
    intro o ho
    exact isOffered_iff.mpr ⟨_, List.mem_append_right _ (List.mem_singleton_self _), rfl,
      (mem_newOptions ho).2.symm⟩
  have hoptions : (withQuestion q c s).options =
      s.options ++ newOptions (nextId s.questions) (nextId s.options) c.options := append_optionRows
  rw [hoptions, filter_not_append hnew]
  refine List.filter_congr fun o ho => congrArg (!·) ?_
  have hne : nextId s.questions ≠ o.question := Ne.symm (hi.optionQuestion.ne_nextId ho)
  unfold isOffered withQuestion
  rw [List.filter_append]
  simp [has, hne, Row.id]

lemma withoutQuiz_rephrase (hi : Integrity s) {k : Question} (hk : k ∈ s.questions)
    (c : CheckedQuestion) :
    withoutQuiz k.quiz { s with
      questions := modify k.id (withContent c) s.questions
      options := replacedOptions k.id c s.options } = withoutQuiz k.quiz s := by
  have hsame : isOffered k.quiz (modify k.id (withContent c) s.questions) = isOffered k.quiz s.questions := by
    funext o
    unfold isOffered
    rw [filter_modify (f := withContent c) fun _ => rfl]
    exact has_modify (f := withContent c) fun _ => rfl
  refine withoutQuiz_congr rfl rfl (filter_not_modify hi.questions hk (by simp) (beq_self_eq_true _)) ?_
  have hown {o : AnswerOption} (ho : o.question = k.id) : isOffered k.quiz s.questions o = true :=
    isOffered_iff.mpr ⟨k, hk, rfl, ho.symm⟩
  dsimp only
  rw [hsame, replacedOptions_eq hi.options, filter_not_append fun o ho => hown (mem_newOptions ho).2,
    List.filter_filter]
  refine List.filter_congr fun o _ => ?_
  by_cases ho : o.question = k.id
  · simp [hown ho]
  · simp [ho]

lemma withoutQuiz_strike (hi : Integrity s) {k : Question} (hk : k ∈ s.questions) :
    withoutQuiz k.quiz (withoutQuestion k s) = withoutQuiz k.quiz s := by
  have hquestions := questions_strike_apart hi.questions hk (p := fun quiz => !(quiz == k.quiz)) (by simp)
  refine withoutQuiz_congr rfl rfl hquestions ?_
  have hoptions : (withoutQuestion k s).options = s.options.filter (·.question != k.id) := rfl
  rw [hoptions, List.filter_filter]
  refine List.filter_congr fun o _ => ?_
  by_cases ho : o.question = k.id
  · have hown : isOffered k.quiz s.questions o = true := isOffered_iff.mpr ⟨k, hk, rfl, ho.symm⟩
    simp [hown, ho]
  · have hsame : isOffered k.quiz (withoutQuestion k s).questions o = isOffered k.quiz s.questions o := by
      rw [Bool.eq_iff_iff, isOffered_iff, isOffered_iff]
      constructor
      · rintro ⟨x, hx, hquiz, hid⟩
        obtain ⟨y, hy, rfl⟩ := List.mem_map.mp hx
        rw [placed_quiz] at hquiz
        rw [placed_id] at hid
        exact ⟨y, (List.mem_filter.mp hy).1, hquiz, hid⟩
      · rintro ⟨x, hx, hquiz, hid⟩
        refine ⟨_, List.mem_map_of_mem (List.mem_filter.mpr ⟨hx, ?_⟩), (placed_quiz _ x).trans hquiz,
          (placed_id _ x).trans hid⟩
        rw [← hid] at ho
        exact bne_iff_ne.mpr ho
    simp [hsame, ho]

lemma withoutQuiz_discard (quiz : Int) (s : Store) :
    withoutQuiz quiz (withoutQuiz quiz s) = withoutQuiz quiz s := by
  refine withoutQuiz_congr rfl ?_ ?_ ?_
  · simp [withoutQuiz, Table.remove, Row.id, List.filter_filter, bne]
  · simp [withoutQuiz, List.filter_filter, bne]
  · have hnone (o : AnswerOption) : isOffered quiz (withoutQuiz quiz s).questions o = false := by
      rw [← Bool.not_eq_true, isOffered_iff]
      rintro ⟨k, hk, hquiz, -⟩
      simp [withoutQuiz, hquiz] at hk
    simp only [hnone, Bool.not_false, List.filter_true]
    exact withoutQuiz_options quiz s

lemma withoutQuiz_changeQuiz (hi : Integrity s) {q : Quiz} (hq : q ∈ s.quizzes) {f : Quiz → Quiz}
    (hf : (f q).id = q.id) :
    withoutQuiz q.id { s with quizzes := modify q.id f s.quizzes } = withoutQuiz q.id s :=
  withoutQuiz_congr rfl (filter_not_modify hi.quizzes hq (by simp) (by simpa using hf)) rfl rfl

end Rest

section Writes

variable {ctx : Context} {s s' : Store} {caller : Caller} {v : Value} {q : Quiz} {k : Question}

lemma owned_permits (found : owned ctx caller v s = .ok q) :
    q ∈ s.quizzes ∧ IsNamed s s' q (.quiz v) ∧ caller.actsAs .teacher = true ∧
      Teaches ctx s caller q.classSection := by
  obtain ⟨hq, teacher⟩ := owned_eq_ok found
  exact ⟨hq, ⟨hq, (owned_found found).1⟩, requireSectionTeacher_eq_ok teacher⟩

lemma ownedQuestion_permits (found : ownedQuestion ctx caller v s = .ok (k, q)) :
    k ∈ s.questions ∧ k.quiz = q.id ∧ IsNamed s s' q (.question v) ∧ caller.actsAs .teacher = true ∧
      Teaches ctx s caller q.classSection := by
  obtain ⟨hk, hq, hkq, teacher⟩ := ownedQuestion_eq_ok found
  exact ⟨hk, hkq, ⟨hq, k, hk, hkq, (ownedQuestion_found found).1⟩, requireSectionTeacher_eq_ok teacher⟩

/-- What a write of quizzes shows: its call was made by the teacher of the quiz's section, and nothing but the
quiz has changed. -/
lemma Write.scope (hi : Integrity s) {c : Call} (w : Write ctx s c s') :
    ∃ caller target q, c.quizTarget? = some (caller, target) ∧ IsNamed s s' q target ∧
      caller.actsAs .teacher = true ∧ Teaches ctx s caller q.classSection ∧
      withoutQuiz q.id s' = withoutQuiz q.id s := by
  cases w with
  | @draft caller r new author total checked =>
    obtain ⟨named, teacher⟩ := checkDraft_named checked
    obtain ⟨role, teaches⟩ := requireSectionTeacher_eq_ok teacher
    let q := new.row author total (nextId s.quizzes)
    have hq : q ∈ s.quizzes ++ [q] := List.mem_append_right _ (List.mem_singleton_self q)
    exact ⟨caller, _, q, rfl, ⟨hq, rfl, named⟩, role, teaches, withoutQuiz_draft q s⟩
  | ask found =>
    obtain ⟨-, named, role, teaches⟩ := owned_permits found
    exact ⟨_, _, _, rfl, named, role, teaches, withoutQuiz_ask hi _ _⟩
  | rephrase found =>
    obtain ⟨hk, hkq, named, role, teaches⟩ := ownedQuestion_permits found
    exact ⟨_, _, _, rfl, named, role, teaches, hkq ▸ withoutQuiz_rephrase hi hk _⟩
  | strike found =>
    obtain ⟨hk, hkq, named, role, teaches⟩ := ownedQuestion_permits found
    exact ⟨_, _, _, rfl, named, role, teaches, hkq ▸ withoutQuiz_strike hi hk⟩
  | discard found =>
    obtain ⟨-, named, role, teaches⟩ := owned_permits found
    exact ⟨_, _, _, rfl, named, role, teaches, withoutQuiz_discard _ s⟩
  | publish found | close found =>
    obtain ⟨hq, named, role, teaches⟩ := owned_permits found
    exact ⟨_, _, _, rfl, named, role, teaches, withoutQuiz_changeQuiz hi hq rfl⟩

end Writes

end Quiz

end Assessment
