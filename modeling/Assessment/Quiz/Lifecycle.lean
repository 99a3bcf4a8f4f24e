import Assessment.Quiz.Authoring

/-!
# The lifecycle of a quiz

A draft with all its questions is published, and a published quiz is closed. There is no way back.
-/

namespace Assessment.Quiz

open Assessment.Access Assessment.Request Assessment.Time

/-- Every question has sound options. -/
def checkQuestions (s : Store) : List Question → Except Fault Unit
  | [] => .ok ()
  | q :: rest =>
    match optionProblem? q.kind ((s.optionsOf q.id).map (·.correct)) with
    | some problem => .error (.refused (.questionUnsound q.order.value.display problem))
    | none => checkQuestions s rest

/-- One end of the window: the one that is given, or the one that the draft has. -/
def windowEnd (v : Value) (drafted : Option Instant) : Except Fault (Option Instant) :=
  if v.isNull then .ok drafted else readInstant? v

/-- A quiz that is published at a time with a window. -/
def published (now : Instant) (startAt endAt : Option Instant) (q : Quiz) : Quiz :=
  { q with startAt, endAt, status := .published, publishedAt := some now }

/-- A quiz that is closed at a time. -/
def closed (now : Instant) (q : Quiz) : Quiz :=
  { q with status := .closed, closedAt := some now }

/-- Publishes a draft that has all its questions. -/
def publishDraft (ctx : Context) (caller : Caller) (quiz startAt endAt : Value) :
    Transaction Quiz := fun s => do
  let quiz ← owned ctx caller quiz s
  if quiz.status ≠ .draft then throw (.refused .quizNotPublishable)
  let questions := s.questionsOf quiz.id
  if (questions.length : Int) ≠ quiz.total then
    throw (.refused (.questionsIncomplete quiz.total questions.length))
  checkQuestions s questions
  let startAt ← windowEnd startAt quiz.startAt
  let endAt ← windowEnd endAt quiz.endAt
  checkWindow startAt endAt
  let edit := published ctx.now startAt endAt
  return .change .recordChanged fun s => do
    let (_, s) ← changeQuiz quiz.id edit s
    return (edit quiz, s)

def publish (ctx : Context) (caller : Caller) (quiz startAt endAt : Value) : Action Quiz := do
  let quiz ← Action.commit (publishDraft ctx caller quiz startAt endAt)
  Action.send (.quizPublished quiz.id quiz.classSection caller.id quiz.startAt quiz.endAt)
  return quiz

def close (ctx : Context) (caller : Caller) (quiz : Value) : Transaction Quiz := fun s => do
  let quiz ← owned ctx caller quiz s
  if quiz.status ≠ .published then throw (.refused .quizNotClosable)
  return .change .recordChanged fun s => do
    let (_, s) ← changeQuiz quiz.id (closed ctx.now) s
    return (closed ctx.now quiz, s)

end Assessment.Quiz
