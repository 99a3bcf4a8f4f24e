import Assessment.Call
import Assessment.Proofs.Sessions

/-!
# What authoring and the lifecycle write

Every successful call on a quiz makes one of seven writes. `Write` lists them with all that was checked
before, so that a law of the quiz tables needs seven cases and no operation is opened again.
-/

namespace Assessment.Quiz

open Access Request

/-- The store after a question is added at the end of a quiz. -/
def withQuestion (quiz : Quiz) (c : CheckedQuestion) (s : Store) : Store :=
  let id := Table.nextId s.questions
  { s with
    questions := s.questions ++
      [⟨id, quiz.id, c.text, c.kind, storedPoints c, .whole ((s.questionsOf quiz.id).length + 1 : Nat)⟩]
    options := Table.append s.options (optionRows id c.options) }

/-- The options after those of one question are replaced. -/
def replacedOptions (question : Int) (c : CheckedQuestion) (options : List AnswerOption) :
    List AnswerOption :=
  (Table.append options (optionRows question c.options)).filter fun o =>
    !((options.filter (·.question == question)).map (·.id)).contains o.id

/-- The store without a question, the remaining ones numbered from one on. -/
def withoutQuestion (k : Question) (s : Store) : Store :=
  { s with
    questions := (Table.remove k.id s.questions).map
      (placed ((s.questionsOf k.quiz).filter (·.id != k.id)))
    options := s.options.filter (·.question != k.id) }

/-- The store without a quiz, its questions and their options. -/
def withoutQuiz (quiz : Int) (s : Store) : Store :=
  { s with
    quizzes := Table.remove quiz s.quizzes
    questions := s.questions.filter (·.quiz != quiz)
    options := s.options.filter fun o =>
      !((s.questions.filter (·.quiz == quiz)).map (·.id)).contains o.question }

/-- What a call on a quiz writes. -/
inductive Write (ctx : Context) (s : Store) : Call → Store → Prop
  | draft {caller : Caller} {r : DraftRequest} {q : NewQuiz} {author total : Int}
      (checked : checkDraft ctx caller r s = .ok q) (allowed : q.total = some total)
      (storable : isStorable q.classSection = true) :
      Write ctx s (.createDraft caller r)
        { s with quizzes := s.quizzes ++ [q.row author total (Table.nextId s.quizzes)] }
  | ask {caller : Caller} {quiz : Value} {r : QuestionRequest} {q : Quiz} {c : CheckedQuestion}
      (found : owned ctx caller quiz s = .ok q) (editable : q.status = .draft)
      (checked : checkQuestion Kind.all r = .ok c)
      (room : ((s.questionsOf q.id).length : Int) < q.total) :
      Write ctx s (.addQuestion caller quiz r) (withQuestion q c s)
  | rephrase {caller : Caller} {question : Value} {r : QuestionRequest} {k : Question} {q : Quiz}
      {c : CheckedQuestion}
      (found : ownedQuestion ctx caller question s = .ok (k, q)) (editable : q.status = .draft)
      (checked : checkQuestion Kind.all r = .ok c) (unused : hasSelectedOption s k.id = false) :
      Write ctx s (.updateQuestion caller question r)
        { s with
          questions := Table.modify k.id (withContent c) s.questions
          options := replacedOptions k.id c s.options }
  | strike {caller : Caller} {question : Value} {k : Question} {q : Quiz}
      (found : ownedQuestion ctx caller question s = .ok (k, q)) (editable : q.status = .draft)
      (unselected : hasSelectedOption s k.id = false)
      (unanswered : s.selections.any (·.question == k.id) = false) :
      Write ctx s (.deleteQuestion caller question) (withoutQuestion k s)
  | discard {caller : Caller} {quiz : Value} {q : Quiz}
      (found : owned ctx caller quiz s = .ok q) (editable : q.status = .draft)
      (unattempted : s.attempts.any (·.quiz == q.id) = false) :
      Write ctx s (.deleteQuiz caller quiz) (withoutQuiz q.id s)
  | publish {caller : Caller} {quiz startAt endAt : Value} {q : Quiz}
      {opens closes : Option Time.Instant}
      (found : owned ctx caller quiz s = .ok q) (editable : q.status = .draft)
      (complete : ((s.questionsOf q.id).length : Int) = q.total)
      (sound : checkQuestions s (s.questionsOf q.id) = .ok ())
      (opening : windowEnd startAt q.startAt = .ok opens)
      (closing : windowEnd endAt q.endAt = .ok closes)
      (window : checkWindow opens closes = .ok ()) :
      Write ctx s (.publish caller quiz startAt endAt)
        { s with quizzes := Table.modify q.id (published ctx.now opens closes) s.quizzes }
  | close {caller : Caller} {quiz : Value} {q : Quiz}
      (found : owned ctx caller quiz s = .ok q) (open' : q.status = .published) :
      Write ctx s (.close caller quiz)
        { s with quizzes := Table.modify q.id (closed ctx.now) s.quizzes }

lemma Write.frame {ctx : Context} {s s' : Store} {c : Call} (w : Write ctx s c s') :
    s' = { s with
      quizzes := s'.quizzes
      questions := s'.questions
      options := s'.options } := by
  cases w <;> rfl

section Operations

variable {ctx : Context} {caller : Caller} {s s' : Store}

lemma owned_found {quiz : Value} {q : Quiz} (h : owned ctx caller quiz s = .ok q) :
    readPositive "Quiz id" quiz = .ok q.id ∧ Table.find? q.id s.quizzes = some q ∧
      requireSectionTeacher (ctx.directory s) caller (.int q.classSection) = .ok () := by
  simp only [owned, bind_eq_ok, readRow?, when_eq_ok, Except.ok.injEq] at h
  obtain ⟨id, hid, row, ⟨-, rfl⟩, h⟩ := h
  cases hf : Table.find? id s.quizzes with
  | none => simp [hf] at h
  | some x =>
    simp only [hf, bind_eq_ok, pure_eq_ok, exists_unit] at h
    obtain ⟨ht, rfl⟩ := h
    obtain rfl : x.id = id := (Table.mem_of_find? hf).2
    exact ⟨hid, hf, ht⟩

lemma owned_eq_ok {quiz : Value} {q : Quiz} (h : owned ctx caller quiz s = .ok q) :
    q ∈ s.quizzes ∧
      requireSectionTeacher (ctx.directory s) caller (.int q.classSection) = .ok () := by
  obtain ⟨-, hf, ht⟩ := owned_found h
  exact ⟨(Table.mem_of_find? hf).1, ht⟩

lemma ownedQuestion_found {question : Value} {k : Question} {q : Quiz}
    (h : ownedQuestion ctx caller question s = .ok (k, q)) :
    readPositive "Question id" question = .ok k.id ∧ Table.find? k.id s.questions = some k ∧
      Table.find? k.quiz s.quizzes = some q ∧
      requireSectionTeacher (ctx.directory s) caller (.int q.classSection) = .ok () := by
  simp only [ownedQuestion, bind_eq_ok, readRow?, when_eq_ok, Except.ok.injEq] at h
  obtain ⟨id, hid, row, ⟨-, rfl⟩, h⟩ := h
  cases hk : Table.find? id s.questions with
  | none => simp [hk] at h
  | some x =>
    cases hq : Table.find? x.quiz s.quizzes with
    | none => simp [hk, hq] at h
    | some y =>
      simp only [hk, hq, bind_eq_ok, pure_eq_ok, exists_unit, Prod.mk.injEq] at h
      obtain ⟨ht, rfl, rfl⟩ := h
      obtain rfl : x.id = id := (Table.mem_of_find? hk).2
      exact ⟨hid, hk, hq, ht⟩

lemma ownedQuestion_eq_ok {question : Value} {k : Question} {q : Quiz}
    (h : ownedQuestion ctx caller question s = .ok (k, q)) :
    k ∈ s.questions ∧ q ∈ s.quizzes ∧ k.quiz = q.id ∧
      requireSectionTeacher (ctx.directory s) caller (.int q.classSection) = .ok () := by
  obtain ⟨-, hk, hq, ht⟩ := ownedQuestion_found h
  obtain ⟨hmem, hid⟩ := Table.mem_of_find? hq
  exact ⟨(Table.mem_of_find? hk).1, hmem, hid.symm, ht⟩

lemma checkDraft_named {r : DraftRequest} {q : NewQuiz} (h : checkDraft ctx caller r s = .ok q) :
    readPositive "Class section id" r.classSection = .ok q.classSection ∧
      requireSectionTeacher (ctx.directory s) caller (.int q.classSection) = .ok () := by
  simp only [checkDraft, bind_eq_ok, exists_unit, pure_eq_ok] at h
  obtain ⟨id, hid, hteacher, _, -, _, -, _, -, _, -, _, -, _, -, -, _, -, rfl⟩ := h
  exact ⟨hid, hteacher⟩

lemma requireDraft_eq_ok {q : Quiz} : requireDraft q = .ok () ↔ q.status = .draft := by
  simp [requireDraft]

lemma createDraft_writes {r : DraftRequest} {a : Quiz}
    (h : (createDraft ctx caller r).run s = .ok (a, s')) :
    Write ctx s (.createDraft caller r) s' := by
  simp only [createDraft, Transaction.run_eq_ok, bind_eq_ok, pure_eq_ok] at h
  obtain ⟨_, ⟨q, hq, rfl⟩, h⟩ := h
  simp only [Decision.apply_change, insertQuiz, requireStorable, bind_eq_ok, when_eq_ok, exists_unit,
    List.all_cons, Bool.and_eq_true] at h
  obtain ⟨⟨⟨hstorable, -⟩, -⟩, -, _, -, -, author, -, h⟩ := h
  cases ht : q.total with
  | none => simp [ht] at h
  | some total =>
    simp only [ht, pure_eq_ok, Prod.mk.injEq] at h
    obtain ⟨-, rfl⟩ := h
    exact .draft hq ht hstorable

lemma addQuestion_eq_ok {quiz : Value} {r : QuestionRequest} {a : QuestionAdded}
    (h : (addQuestion ctx caller quiz r).run s = .ok (a, s')) :
    ∃ q c, owned ctx caller quiz s = .ok q ∧ q.status = .draft ∧ checkQuestion Kind.all r = .ok c ∧
      ((s.questionsOf q.id).length : Int) < q.total ∧ a.question = Table.nextId s.questions ∧
      s' = withQuestion q c s := by
  simp only [addQuestion, Transaction.run_eq_ok, bind_eq_ok, pure_eq_ok, guard_eq_ok,
    exists_unit] at h
  obtain ⟨_, ⟨q, hq, hd, c, hc, hroom, rfl⟩, h⟩ := h
  simp only [Decision.apply_change, insertQuestion, bind_eq_ok, exists_unit, pure_eq_ok, Prod.mk.injEq] at h
  obtain ⟨_, ⟨-, -, rfl⟩, rfl, rfl⟩ := h
  exact ⟨q, c, hq, requireDraft_eq_ok.mp hd, hc, not_le.mp hroom, rfl, rfl⟩

lemma addQuestion_writes {quiz : Value} {r : QuestionRequest} {a : QuestionAdded}
    (h : (addQuestion ctx caller quiz r).run s = .ok (a, s')) :
    Write ctx s (.addQuestion caller quiz r) s' := by
  obtain ⟨_, _, hq, hd, hc, hroom, -, rfl⟩ := addQuestion_eq_ok h
  exact .ask hq hd hc hroom

lemma updateQuestion_eq_ok {question : Value} {r : QuestionRequest} {a : Int}
    (h : (updateQuestion ctx caller question r).run s = .ok (a, s')) :
    ∃ k q c, ownedQuestion ctx caller question s = .ok (k, q) ∧ q.status = .draft ∧
      checkQuestion Kind.all r = .ok c ∧ hasSelectedOption s k.id = false ∧ a = k.id ∧
      s' = { s with
        questions := Table.modify k.id (withContent c) s.questions
        options := replacedOptions k.id c s.options } := by
  simp only [updateQuestion, Transaction.run_eq_ok, bind_eq_ok, pure_eq_ok, exists_unit] at h
  obtain ⟨_, ⟨⟨k, q⟩, hq, hd, c, hc, rfl⟩, h⟩ := h
  simp only [Decision.apply_change, replaceQuestion, bind_eq_ok, exists_unit, pure_eq_ok,
    guard_eq_ok, Prod.mk.injEq] at h
  obtain ⟨_, ⟨-, hused, rfl⟩, rfl, rfl⟩ := h
  exact ⟨k, q, c, hq, requireDraft_eq_ok.mp hd, hc, by simpa using hused, rfl, rfl⟩

lemma updateQuestion_writes {question : Value} {r : QuestionRequest} {a : Int}
    (h : (updateQuestion ctx caller question r).run s = .ok (a, s')) :
    Write ctx s (.updateQuestion caller question r) s' := by
  obtain ⟨_, _, _, hk, hd, hc, hused, -, rfl⟩ := updateQuestion_eq_ok h
  exact .rephrase hk hd hc hused

lemma deleteQuestion_writes {question : Value} {a : Int × Nat}
    (h : (deleteQuestion ctx caller question).run s = .ok (a, s')) :
    Write ctx s (.deleteQuestion caller question) s' := by
  simp only [deleteQuestion, Transaction.run_eq_ok, bind_eq_ok, pure_eq_ok, exists_unit] at h
  obtain ⟨_, ⟨⟨k, q⟩, hq, hd, rfl⟩, h⟩ := h
  simp only [Decision.apply_change, removeQuestion, bind_eq_ok, pure_eq_ok, unless_eq_ok,
    Bool.or_eq_true, not_or, Except.ok.injEq, Prod.mk.injEq] at h
  obtain ⟨_, ⟨⟨hused, hanswered⟩, rfl⟩, -, rfl⟩ := h
  exact .strike hq (requireDraft_eq_ok.mp hd) (by simpa using hused) (by simpa using hanswered)

lemma deleteQuiz_writes {quiz : Value} {a : Int}
    (h : (deleteQuiz ctx caller quiz).run s = .ok (a, s')) :
    Write ctx s (.deleteQuiz caller quiz) s' := by
  simp only [deleteQuiz, Transaction.run_eq_ok, bind_eq_ok, pure_eq_ok, exists_unit] at h
  obtain ⟨_, ⟨q, hq, hd, rfl⟩, h⟩ := h
  simp only [Decision.apply_change, removeQuiz, bind_eq_ok, pure_eq_ok, unless_eq_ok,
    Except.ok.injEq, Prod.mk.injEq] at h
  obtain ⟨_, ⟨hattempted, rfl⟩, -, rfl⟩ := h
  exact .discard hq (requireDraft_eq_ok.mp hd) (by simpa using hattempted)

lemma publishDraft_eq_ok {quiz startAt endAt : Value} {a : Quiz}
    (h : (publishDraft ctx caller quiz startAt endAt).run s = .ok (a, s')) :
    ∃ q opens closes, owned ctx caller quiz s = .ok q ∧ q.status = .draft ∧
      ((s.questionsOf q.id).length : Int) = q.total ∧
      checkQuestions s (s.questionsOf q.id) = .ok () ∧ windowEnd startAt q.startAt = .ok opens ∧
      windowEnd endAt q.endAt = .ok closes ∧ checkWindow opens closes = .ok () ∧
      a = published ctx.now opens closes q ∧
      s' = { s with quizzes := Table.modify q.id (published ctx.now opens closes) s.quizzes } := by
  simp only [publishDraft, Transaction.run_eq_ok, bind_eq_ok, pure_eq_ok, exists_unit,
    guard_eq_ok, not_not, ne_eq] at h
  obtain ⟨_, ⟨q, hq, hd, hcomplete, hsound, opens, ho, closes, hc, hwindow, rfl⟩, h⟩ := h
  simp only [Decision.apply_change, changeQuiz, bind_eq_ok, pure_eq_ok, Except.ok.injEq,
    Prod.mk.injEq] at h
  obtain ⟨_, rfl, rfl, rfl⟩ := h
  exact ⟨q, opens, closes, hq, hd, hcomplete, hsound, ho, hc, hwindow, rfl, rfl⟩

lemma publishDraft_writes {quiz startAt endAt : Value} {a : Quiz}
    (h : (publishDraft ctx caller quiz startAt endAt).run s = .ok (a, s')) :
    Write ctx s (.publish caller quiz startAt endAt) s' := by
  obtain ⟨_, _, _, hq, hd, hcomplete, hsound, ho, hc, hwindow, -, rfl⟩ := publishDraft_eq_ok h
  exact .publish hq hd hcomplete hsound ho hc hwindow

lemma close_writes {quiz : Value} {a : Quiz}
    (h : (Quiz.close ctx caller quiz).run s = .ok (a, s')) :
    Write ctx s (.close caller quiz) s' := by
  simp only [Quiz.close, Transaction.run_eq_ok, bind_eq_ok, pure_eq_ok, guard_eq_ok, not_not,
    ne_eq] at h
  obtain ⟨_, ⟨q, hq, hd, rfl⟩, h⟩ := h
  simp only [Decision.apply_change, changeQuiz, bind_eq_ok, pure_eq_ok, Except.ok.injEq,
    Prod.mk.injEq] at h
  obtain ⟨_, rfl, -, rfl⟩ := h
  exact .close hq hd

end Operations

end Assessment.Quiz
