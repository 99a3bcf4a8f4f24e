import Assessment.Access.Permission
import Assessment.Context
import Assessment.Quiz.Edit

/-!
# Authoring

The teacher of a section drafts quizzes and writes their questions. A quiz is edited only while it is
a draft, and never holds more questions than its total.
-/

namespace Assessment.Quiz

open Assessment.Access Assessment.Request Assessment.Time

/-- A quiz as its teacher may edit it: it exists and is of a section that the caller teaches. -/
def owned (ctx : Context) (caller : Caller) (quiz : Value) (s : Store) : Except Fault Quiz := do
  let id ← readPositive "Quiz id" quiz
  match ← readRow? id s.quizzes with
  | none => throw (.refused .quizMissing)
  | some q =>
    requireSectionTeacher (ctx.directory s) caller (.int q.classSection)
    return q

/-- A question, with its quiz, as the teacher of its section may edit it. -/
def ownedQuestion (ctx : Context) (caller : Caller) (question : Value) (s : Store) :
    Except Fault (Question × Quiz) := do
  let id ← readPositive "Question id" question
  match ← readRow? id s.questions with
  | none => throw (.refused .questionMissing)
  | some q =>
    match Table.find? q.quiz s.quizzes with
    | none => throw (.crashed .missingMember)
    | some quiz =>
      requireSectionTeacher (ctx.directory s) caller (.int quiz.classSection)
      return (q, quiz)

/-- Only drafts are edited. -/
def requireDraft (quiz : Quiz) : Except Fault Unit :=
  if quiz.status = .draft then .ok () else .error (.refused .quizNotEditable)

/-- A quiz as its teacher asks for it. -/
structure DraftRequest where
  classSection : Value
  title : Value
  total : Value
  description : Value
  timeLimit : Value
  shuffleQuestions : Value
  shuffleOptions : Value
  startAt : Value
  endAt : Value

/-- A title is present and not too long. -/
def checkTitle (v : Value) : Except Fault String := do
  let title ← readTrimmed v
  if title.isEmpty then throw (.refused .titleMissing)
  if maxTitleLength < title.length then throw (.refused .titleTooLong)
  return title

/-- A time limit, if one is given, is a positive number of minutes. -/
def checkTimeLimit (v : Value) : Except Fault (Option Int) :=
  if v.isNull then .ok none else (readPositive "Time limit (minutes)" v).map some

def checkDraft (ctx : Context) (caller : Caller) (r : DraftRequest) (s : Store) :
    Except Fault NewQuiz := do
  let classSection ← readPositive "Class section id" r.classSection
  requireSectionTeacher (ctx.directory s) caller (.int classSection)
  let title ← checkTitle r.title
  let total ← checkTotal (← ctx.settings.allowedTotals) r.total
  let timeLimit ← checkTimeLimit r.timeLimit
  let startAt ← readInstant? r.startAt
  let endAt ← readInstant? r.endAt
  checkWindow startAt endAt
  let description ← readTrimmed r.description
  return {
    classSection, title, total, timeLimit, startAt, endAt
    author := caller.id
    description := if description.isEmpty then none else some description
    shuffleQuestions := r.shuffleQuestions.truthy
    shuffleOptions := r.shuffleOptions.truthy
    createdAt := ctx.now }

def createDraft (ctx : Context) (caller : Caller) (r : DraftRequest) : Transaction Quiz :=
  fun s => do
    let quiz ← checkDraft ctx caller r s
    return .change .recordChanged (insertQuiz quiz)

/-- What the author learns when a question is added. -/
structure QuestionAdded where
  question : Int
  count : Nat
  total : Int
  deriving DecidableEq, Repr

/-- Adds a question at the end of a draft. -/
def addQuestion (ctx : Context) (caller : Caller) (quiz : Value) (r : QuestionRequest) :
    Transaction QuestionAdded := fun s => do
  let quiz ← owned ctx caller quiz s
  requireDraft quiz
  let checked ← checkQuestion Kind.all r
  let count := (s.questionsOf quiz.id).length
  if quiz.total ≤ count then throw (.refused (.quizFull quiz.total))
  return .change .recordChanged fun s => do
    let (row, s) ← insertQuestion quiz.id (count + 1 : Nat) checked s
    return (⟨row.id, count + 1, quiz.total⟩, s)

/-- Gives a question of a draft new content; the answer is its number. -/
def updateQuestion (ctx : Context) (caller : Caller) (question : Value) (r : QuestionRequest) :
    Transaction Int := fun s => do
  let (question, quiz) ← ownedQuestion ctx caller question s
  requireDraft quiz
  let checked ← checkQuestion Kind.all r
  return .change .recordChanged fun s => do
    let (_, s) ← replaceQuestion question.id checked s
    return (question.id, s)

/-- Removes a question of a draft; the answer is the quiz and the number of remaining questions. -/
def deleteQuestion (ctx : Context) (caller : Caller) (question : Value) :
    Transaction (Int × Nat) := fun s => do
  let (question, quiz) ← ownedQuestion ctx caller question s
  requireDraft quiz
  return .change .recordChanged fun s => do
    let (count, s) ← removeQuestion question s
    return ((quiz.id, count), s)

/-- Removes a draft; the answer is its number. -/
def deleteQuiz (ctx : Context) (caller : Caller) (quiz : Value) : Transaction Int := fun s => do
  let quiz ← owned ctx caller quiz s
  requireDraft quiz
  return .change .recordChanged fun s => do
    let (_, s) ← removeQuiz quiz.id s
    return (quiz.id, s)

end Assessment.Quiz
