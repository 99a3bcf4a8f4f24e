import Assessment.Amount
import Assessment.Cell
import Assessment.Quiz.Kind
import Assessment.Store.Table
import Assessment.Time.Clock

/-!
# Quizzes

A quiz belongs to a class section. It is drafted with its questions and their options, published for
a window of time, and closed.
-/

namespace Assessment

open Assessment.Time

inductive QuizStatus where
  | draft
  | published
  | closed
  deriving DecidableEq, Repr

def QuizStatus.name : QuizStatus → String
  | draft => "DRAFT"
  | published => "PUBLISHED"
  | closed => "CLOSED"

structure Quiz where
  id : Int
  classSection : Int
  author : Int
  title : String
  description : Option String
  /-- How many questions the quiz has when it is published. -/
  total : Int
  /-- The minutes of an attempt, if they are limited. -/
  timeLimit : Option Cell
  shuffleQuestions : Bool
  shuffleOptions : Bool
  startAt : Option Instant
  endAt : Option Instant
  status : QuizStatus
  publishedAt : Option Instant
  closedAt : Option Instant
  createdAt : Instant
  deriving DecidableEq, Repr

/-- A question of a quiz and its position. -/
structure Question where
  id : Int
  quiz : Int
  text : String
  kind : Quiz.Kind
  points : Amount
  order : Cell
  deriving DecidableEq, Repr

/-- An option of a question. -/
structure AnswerOption where
  id : Int
  question : Int
  text : String
  correct : Bool
  deriving DecidableEq, Repr

instance : Row Quiz := ⟨Quiz.id⟩

instance : Row Question := ⟨Question.id⟩

instance : Row AnswerOption := ⟨AnswerOption.id⟩

namespace Quiz

def maxTitleLength : Nat := 200

def maxOptionLength : Nat := 500

/-- A quiz that has both ends of its window closes after it opens. -/
def checkWindow (startAt endAt : Option Instant) : Except Fault Unit :=
  match startAt, endAt with
  | some opens, some closes => if closes ≤ opens then .error (.refused .windowInverted) else .ok ()
  | _, _ => .ok ()

/-- The same for a window of timestamps. -/
def checkTimestamps (startAt endAt : Option Timestamp) : Except Fault Unit :=
  match startAt, endAt with
  | some opens, some closes =>
    match closes.atMost opens with
    | .error d => .error (.crashed d)
    | .ok inverted => if inverted then .error (.refused .windowInverted) else .ok ()
  | _, _ => .ok ()

/-- When an attempt is over: at the end of the window or of a limit in minutes that runs from its
start, whichever is earlier. A limit that says nothing is none. -/
def endTime (endAt : Option Instant) (minutes : Value) (start : Clock) :
    Except Defect (Option Instant) :=
  if !minutes.truthy then .ok endAt
  else do
    let limit ← Duration.ofQuantity .minutes (← minutes.toQuantity)
    let own ← start.after limit
    return some (match endAt with
      | none => own
      | some closes => closes.min own)

end Quiz

/-- When an attempt at a quiz is over that starts at an instant. -/
def Quiz.endTimeFrom (q : Quiz) (start : Instant) : Except Defect (Option Instant) :=
  Quiz.endTime q.endAt (Cell.value? q.timeLimit) ⟨some start⟩

end Assessment
