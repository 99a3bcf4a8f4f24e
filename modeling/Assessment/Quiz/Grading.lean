import Assessment.KeyedList
import Assessment.Number.Decimal.Arithmetic
import Assessment.Request
import Assessment.Sorting

/-!
# Grading a submission

A submission selects at most one option for each question. A selection counts when it is the correct
option of its question; questions that the quiz does not have are dropped, and an option of another
question is no selection.
-/

namespace Assessment.Quiz

open Assessment.Number Assessment.Request

/-- What grading knows of a question. -/
structure QuestionKey where
  question : Int
  points : Decimal
  correct : Option Int
  options : List Int
  deriving DecidableEq, Repr

/-- The selections of a submission, one for each question, in the order of first mention. -/
abbrev Selections := List (Int × Option Int)

structure GradedSelection where
  question : Int
  selected : Option Int
  correct : Bool
  deriving DecidableEq, Repr

/-- The result of grading a submission. -/
structure Breakdown where
  score : Decimal
  maxScore : Decimal
  correctCount : Nat
  totalCount : Nat
  graded : List GradedSelection
  deriving DecidableEq, Repr

/-- Grades one selection of a question of the key. -/
def gradeSelection (key : QuestionKey) (selected : Option Int) : GradedSelection :=
  let own := selected.filter key.options.contains
  ⟨key.question, own, own.isSome && own == key.correct⟩

/-- The questions of a submission that the key has, each with its selection. -/
def known (key : List QuestionKey) (submitted : Selections) : List (QuestionKey × GradedSelection) :=
  submitted.filterMap fun (question, selected) =>
    (key.find? (·.question == question)).map fun k => (k, gradeSelection k selected)

/-- The sum of some amounts, added one after the other. -/
def sum (amounts : List Decimal) : Except Defect Decimal :=
  amounts.foldlM Decimal.add .zero

/-- Grades a submission against the key of the quiz. -/
def grade (key : List QuestionKey) (submitted : Selections) : Except Defect Breakdown := do
  let marked := known key submitted
  let right := marked.filter (·.2.correct)
  let score ← sum (right.map (·.1.points))
  let maxScore ← sum (key.map (·.points))
  return {
    score, maxScore
    correctCount := right.length
    totalCount := key.length
    graded := sortBy (fun a b => a.question ≤ b.question) (marked.map (·.2)) }

/-- One answer of a submission as it is sent: a question and a selected option. -/
def readAnswer (question selected : Value) : Except Fault (Int × Option Int) := do
  match ← tryInteger question with
  | none => throw (.refused .submissionUnreadable)
  | some q =>
    if selected.isNull then return (q, none)
    else
      match ← tryInteger selected with
      | none => throw (.refused .submissionUnreadable)
      | some s => return (q, some s)

/-- One item of a list of answers; what is not an object names no question. -/
def readAnswerItem (v : Value) : Except Fault (Int × Option Int) :=
  readAnswer (v.memberOrNull "question_id") (v.memberOrNull "selected_answer_id")

/-- The answers of a submission in the order in which they are sent: a list of objects, or an object
from questions to options. -/
def readAnswers : Value → Except Fault (List (Int × Option Int))
  | .null => .ok []
  | .object members => members.mapM fun m => readAnswer (.text m.1) m.2
  | .list items => items.mapM readAnswerItem
  | .text s => s.toList.mapM fun c => readAnswerItem (.text c.toString)
  | _ => .error (.crashed .wrongKind)

/-- The selections of a submission; the last answer to a question counts. -/
def readSelections (v : Value) : Except Fault Selections :=
  (readAnswers v).map KeyedList.ofList

end Assessment.Quiz
