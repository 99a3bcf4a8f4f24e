import Assessment.Quiz.Ordering
import Assessment.Store.Basic

/-!
# The view of an attempt

What a student sees of an attempt: all questions and options in the attempt's own order, without a
hint as to which options are correct.
-/

namespace Assessment

open Assessment.Time

/-- An option as a student sees it. -/
structure ShownOption where
  id : Int
  text : String
  deriving DecidableEq, Repr

/-- A question as a student sees it. -/
structure ShownQuestion where
  id : Int
  text : String
  kind : Quiz.Kind
  points : Amount
  options : List ShownOption
  deriving DecidableEq, Repr

/-- An attempt as its student sees it. -/
structure AttemptView where
  attempt : Int
  quiz : Int
  title : String
  status : AttemptStatus
  startedAt : Instant
  endTime : Option Instant
  questions : List ShownQuestion
  deriving DecidableEq, Repr

/-- The seed of an attempt's order; an attempt without one has the seed of its number. -/
def Attempt.orderSeed (a : Attempt) : String :=
  match a.seed with
  | none => Quiz.attemptSeed (.int a.id)
  | some seed => if seed.isEmpty then Quiz.attemptSeed (.int a.id) else seed

/-- A question with its options in the order of an attempt. -/
def showQuestion (s : Store) (seed : String) (shuffled : Bool) (q : Question) : ShownQuestion where
  id := q.id
  text := q.text
  kind := q.kind
  points := q.points
  options := (Quiz.orderOptions seed (.int q.id) shuffled (s.optionsOf q.id)).map fun o => ⟨o.id, o.text⟩

/-- Positions that can be compared: all of them numbers, or all of them texts. -/
def requireOrder (questions : List Question) : Except Defect Unit :=
  if questions.all (·.order.isText) || questions.all (!·.order.isText) then .ok ()
  else .error .wrongKind

/-- The view of an attempt at a quiz. -/
def viewOf (s : Store) (quiz : Quiz) (attempt : Attempt) : Except Defect AttemptView := do
  let seed := attempt.orderSeed
  let questions := s.questionsOf quiz.id
  requireOrder questions
  let questions := Quiz.orderQuestions seed quiz.shuffleQuestions questions
  let endTime ← quiz.endTimeFrom attempt.startedAt
  return {
    attempt := attempt.id
    quiz := quiz.id
    title := quiz.title
    status := attempt.status
    startedAt := attempt.startedAt
    endTime
    questions := questions.map (showQuestion s seed quiz.shuffleOptions) }

end Assessment
