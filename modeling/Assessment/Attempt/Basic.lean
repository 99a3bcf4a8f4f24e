import Assessment.Amount
import Assessment.Store.Table
import Assessment.Time.Instant

/-!
# Attempts

A student attempts a quiz once. The attempt is in progress until it is submitted; then it carries its
score and one graded selection for each question that was answered.
-/

namespace Assessment

open Assessment.Time

inductive AttemptStatus where
  | inProgress
  | submitted
  deriving DecidableEq, Repr

def AttemptStatus.name : AttemptStatus → String
  | inProgress => "IN_PROGRESS"
  | submitted => "SUBMITTED"

structure Attempt where
  id : Int
  quiz : Int
  student : Int
  enrollment : Int
  classSection : Int
  startedAt : Instant
  submittedAt : Option Instant
  status : AttemptStatus
  score : Option Amount
  maxScore : Option Amount
  correctCount : Option Nat
  totalCount : Option Nat
  late : Bool
  seed : Option String
  deriving DecidableEq, Repr

/-- A graded selection of an attempt. -/
structure Selection where
  id : Int
  attempt : Int
  question : Int
  selected : Option Int
  correct : Bool
  deriving DecidableEq, Repr

instance : Row Attempt := ⟨Attempt.id⟩

instance : Row Selection := ⟨Selection.id⟩

def Attempt.begin (quiz student enrollment classSection : Int) (startedAt : Instant)
    (seed : Int → Option String) (id : Int) : Attempt where
  id
  quiz
  student
  enrollment
  classSection
  startedAt
  submittedAt := none
  status := .inProgress
  score := none
  maxScore := none
  correctCount := none
  totalCount := none
  late := false
  seed := seed id

end Assessment
