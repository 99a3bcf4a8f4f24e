import Assessment.Quiz.Authoring

/-!
# Listings of quizzes

Teachers list the quizzes of the sections they teach, students those that are open in a section they
are enrolled in.
-/

namespace Assessment.Quiz

open Assessment.Access Assessment.Request

/-- A question with its options. -/
structure QuestionDetail where
  question : Question
  options : List AnswerOption
  deriving DecidableEq, Repr

def questionsFor (ctx : Context) (caller : Caller) (quiz : Value) (s : Store) :
    Except Fault (Quiz × List QuestionDetail) := do
  let quiz ← owned ctx caller quiz s
  return (quiz, (s.questionsOf quiz.id).map fun q => ⟨q, s.optionsOf q.id⟩)

/-- Newest first; of quizzes of one time the one with the larger number. -/
def newer (a b : Quiz) : Bool :=
  b.createdAt < a.createdAt || (a.createdAt == b.createdAt && b.id ≤ a.id)

/-- The quizzes of the sections that a teacher teaches. -/
def listForTeacher (ctx : Context) (caller : Caller) (s : Store) : Except Fault (List Quiz) := do
  if !caller.actsAs .teacher then throw (.refused .notTeacher)
  let sections ← ((ctx.directory s).taught caller.id : Except Defect _)
  let sections ← (sections.mapM Value.probe : Except Defect _)
  return sortBy newer (s.quizzes.filter fun q => sections.any (·.findsWhole q.classSection))

/-- By opening time, quizzes without one first; of one time by number. -/
def opensBefore (a b : Quiz) : Bool :=
  match a.startAt, b.startAt with
  | none, none => a.id ≤ b.id
  | none, some _ => true
  | some _, none => false
  | some x, some y => x < y || (x == y && a.id ≤ b.id)

/-- A published quiz and the student's attempt at it. -/
structure OpenQuiz where
  quiz : Quiz
  attempt : Option Attempt
  deriving DecidableEq, Repr

/-- The published quizzes of a section, for a student who is enrolled in it. -/
def listPublished (ctx : Context) (caller : Caller) (classSection : Value) (s : Store) :
    Except Fault (List OpenQuiz) := do
  let id ← readPositive "Class section id" classSection
  let _ ← requireEnrolledStudent (ctx.directory s) caller (.int id)
  queryWith [id]
  let student ← (caller.id.probe : Except Defect Probe)
  let quizzes := s.quizzes.filter fun q => q.classSection == id && q.status == .published
  return (sortBy opensBefore quizzes).map fun q =>
    ⟨q, s.attempts.find? fun a => a.quiz == q.id && student.findsWhole a.student⟩

end Assessment.Quiz
