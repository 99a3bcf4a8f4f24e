import Assessment.Access.Permission
import Assessment.Attempt.View
import Assessment.Context
import Assessment.Quiz.Grading

/-!
# Starting, viewing and submitting attempts

A student who is enrolled in the section starts one attempt at a published quiz within its window. The
attempt is submitted once; what is submitted after its end is late.
-/

namespace Assessment.Attempting

open Assessment.Access Assessment.Number Assessment.Quiz Assessment.Request Assessment.Time

/-- The given time, or the clock's. -/
def timeOr (ctx : Context) (now : Value) : Except Fault Instant := do
  return (← readInstant? now).getD ctx.now

/-- The quiz takes attempts at this time. -/
def requireOpen (quiz : Quiz) (now : Instant) : Except Fault Unit := do
  if quiz.status ≠ .published then throw (.refused .quizNotOpen)
  if quiz.startAt.any (now < ·) then throw (.refused .quizNotYetOpen)
  if quiz.endAt.any (· < now) then throw (.refused .quizOver)

/-- Adds an attempt, with the seed of its number. -/
def insertAttempt (quiz : Quiz) (student enrollment : Value) (now : Instant) : Change Attempt :=
  fun s => do
    let student ← columnOf student
    let enrollment ← columnOf enrollment
    requireRow quiz.id s.quizzes
    let student ← requiredReference student s.users
    let enrollment ← requiredReference enrollment s.enrollments
    requireRow quiz.classSection s.classSections
    if s.attempts.any fun a => a.quiz == quiz.id && a.student == student then throw .constraint
    let row := Attempt.begin quiz.id student enrollment quiz.classSection now
      (fun id => some (attemptSeed (.int id))) (Table.nextId s.attempts)
    return (row, { s with attempts := s.attempts ++ [row] })

def beginAttempt (ctx : Context) (caller : Caller) (quiz now : Value) :
    Transaction (Quiz × Attempt) := fun s => do
  let id ← readPositive "Quiz id" quiz
  match ← readRow? id s.quizzes with
  | none => throw (.refused .quizMissing)
  | some quiz =>
    let enrollment ← requireEnrolledStudent (ctx.directory s) caller (.int quiz.classSection)
    let now ← timeOr ctx now
    requireOpen quiz now
    let student ← (caller.id.probe : Except Defect Probe)
    if s.attempts.any fun a => a.quiz == quiz.id && student.findsWhole a.student then
      throw (.refused .alreadyAttempted)
    return .change .alreadyAttempted fun s => do
      let (row, s) ← insertAttempt quiz caller.id enrollment now s
      return ((quiz, row), s)

/-- Starts an attempt and shows it. The attempt stands even when it cannot be shown. -/
def start (ctx : Context) (caller : Caller) (quiz now : Value) : Action AttemptView := do
  let (quiz, attempt) ← Action.commit (beginAttempt ctx caller quiz now)
  Action.read fun s => (viewOf s quiz attempt).mapError .crashed

def own (caller : Caller) (attempt : Value) (s : Store) : Except Fault Attempt := do
  let id ← readPositive "Attempt id" attempt
  match ← readRow? id s.attempts with
  | none => throw (.refused .attemptMissing)
  | some a =>
    if !caller.actsAs .student then throw (.refused .attemptOfAnother)
    if !(← (caller.id.equals (.int a.student) : Except Defect Bool)) then
      throw (.refused .attemptOfAnother)
    return a

def quizOf (s : Store) (a : Attempt) : Except Fault Quiz :=
  match Table.find? a.quiz s.quizzes with
  | some quiz => .ok quiz
  | none => .error (.crashed .missingMember)

def view (caller : Caller) (attempt : Value) (s : Store) : Except Fault AttemptView := do
  let a ← own caller attempt s
  if a.status ≠ .inProgress then throw (.refused .attemptNotViewable)
  let quiz ← quizOf s a
  (viewOf s quiz a).mapError .crashed

/-- The key of a question: a correct option only if exactly one is marked. -/
def keyOf (s : Store) (q : Question) : QuestionKey :=
  let options := s.optionsOf q.id
  { question := q.id
    points := q.points.toDecimal
    correct :=
      match options.filter (·.correct) with
      | [o] => some o.id
      | _ => none
    options := options.map (·.id) }

def answerKey (s : Store) (quiz : Int) : List QuestionKey := (s.questionsOf quiz).map (keyOf s)

/-- What a student learns from a submission. -/
structure SubmissionResult where
  attempt : Int
  quiz : Int
  score : Decimal
  maxScore : Decimal
  correctCount : Nat
  totalCount : Nat
  late : Bool
  submittedAt : Instant
  deriving DecidableEq, Repr

def submitted (b : Breakdown) (late : Bool) (now : Instant) (a : Attempt) : Attempt :=
  { a with
    status := .submitted
    submittedAt := some now
    score := Amount.ofDecimal? b.score
    maxScore := Amount.ofDecimal? b.maxScore
    correctCount := some b.correctCount
    totalCount := some b.totalCount
    late }

/-- Claims an attempt that is still in progress; whoever comes second is refused. -/
def claim (attempt : Int) (b : Breakdown) (late : Bool) (now : Instant) (s : Store) :
    Except Fault Store :=
  if s.attempts.any fun a => a.id == attempt && a.status == .inProgress then
    .ok { s with attempts := Table.modify attempt (submitted b late now) s.attempts }
  else .error (.refused .alreadySubmitted)

/-- The rows of graded selections, before they have numbers. -/
def selectionRows (attempt : Int) (graded : List GradedSelection) : List (Int → Selection) :=
  graded.map fun g id => ⟨id, attempt, g.question, g.selected, g.correct⟩

def insertSelections (attempt : Int) (graded : List GradedSelection) : Change Unit := fun s => do
  requireStorable (graded.map (·.question) ++ graded.filterMap (·.selected))
  requireRow attempt s.attempts
  if !graded.all fun g => Table.has g.question s.questions then throw .constraint
  if !(graded.filterMap (·.selected)).all fun o => Table.has o s.options then throw .constraint
  return ((), { s with
    selections := Table.append s.selections (selectionRows attempt graded) })

/-- Grades a submission and records it, unless its time allowance has run out. -/
def record (ctx : Context) (caller : Caller) (attempt answers now timeout : Value) :
    Transaction (Attempt × SubmissionResult) := fun s => do
  let deadline ← readDeadline? ctx.now timeout
  let a ← own caller attempt s
  if a.status ≠ .inProgress then throw (.refused .alreadySubmitted)
  let selections ← readSelections answers
  let now ← timeOr ctx now
  let quiz ← quizOf s a
  let endTime ← (quiz.endTimeFrom a.startedAt : Except Defect _)
  let late := endTime.any (· < now)
  let b ← (grade (answerKey s quiz.id) selections : Except Defect _)
  let result : SubmissionResult :=
    { attempt := a.id, quiz := quiz.id, score := b.score, maxScore := b.maxScore,
      correctCount := b.correctCount, totalCount := b.totalCount, late, submittedAt := now }
  return .write fun s => do
    let s ← claim a.id b late now s
    if isExpired ctx.now deadline then throw (.refused .submissionTimedOut)
    let (_, s) ← (insertSelections a.id b.graded s).mapError (Violation.fault .alreadySubmitted)
    return ((a, result), s)

/-- Submits an attempt, tells so, and lets a receiver act on it. What becomes of the receiver is no
matter of the submission. -/
def submit (receiver : Int → Action Unit) (ctx : Context) (caller : Caller)
    (attempt answers now timeout : Value) : Action SubmissionResult := do
  let (a, result) ← Action.commit (record ctx caller attempt answers now timeout)
  Action.send (.attemptSubmitted a.id result.quiz caller.id a.classSection result.score
    result.maxScore result.late)
  Action.attempt (receiver a.id)
  return result

/-- What other parts of the program may know of an attempt, by its key. -/
def snapshot? (attempt : Value) (s : Store) : Except Defect (Option Attempt) := do
  return (← attempt.keyProbe "attempt_id").find? s.attempts

end Assessment.Attempting
