import Assessment.Defect
import Assessment.Value

/-!
# Signals

A signal tells the surroundings, after the fact, what an operation has done.
-/

namespace Assessment

open Assessment.Number Assessment.Time

/-- What an operation tells its surroundings. -/
inductive Signal where
  | quizPublished (quiz classSection : Int) (teacher : Value) (startAt endAt : Option Instant)
  | attemptSubmitted (attempt quiz : Int) (student : Value) (classSection : Int)
    (score maxScore : Decimal) (late : Bool)
  | reviewRequested (book classSection : Int) (teacher : Value) (message : Option String)
  | bookApproved (book classSection : Int) (admin : Value) (message : Option String)
  | bookRejected (book classSection : Int) (admin : Value) (message : Option String)
  deriving DecidableEq, Repr

namespace Signal

def name : Signal → String
  | quizPublished .. => "quiz_published"
  | attemptSubmitted .. => "attempt_submitted"
  | reviewRequested .. => "gradebook_review_requested"
  | bookApproved .. => "gradebook_approved"
  | bookRejected .. => "gradebook_rejected"

def payload : Signal → Value
  | quizPublished quiz classSection teacher startAt endAt =>
    .object [("quiz_id", .int quiz), ("class_section_id", .int classSection),
      ("teacher_id", teacher), ("start_at", .ofInstant? startAt),
      ("end_at", .ofInstant? endAt)]
  | attemptSubmitted attempt quiz student classSection score maxScore late =>
    .object [("attempt_id", .int attempt), ("quiz_id", .int quiz), ("student_id", student),
      ("class_section_id", .int classSection), ("score", .decimal score),
      ("max_score", .decimal maxScore), ("late", .bool late)]
  | reviewRequested book classSection teacher message =>
    .object [("grade_book_id", .int book), ("class_section_id", .int classSection),
      ("requested_by", teacher), ("message", .ofText? message)]
  | bookApproved book classSection admin message =>
    .object [("grade_book_id", .int book), ("class_section_id", .int classSection),
      ("approved_by", admin), ("message", .ofText? message)]
  | bookRejected book classSection admin message =>
    .object [("grade_book_id", .int book), ("class_section_id", .int classSection),
      ("rejected_by", admin), ("message", .ofText? message)]

/-- What became of a delivery to several receivers: how many failed, and which of them received
what. -/
structure Delivery where
  failures : Nat
  delivered : List (Nat × Value)

/-- Delivers a payload to every receiver; one that fails does not keep it from the others. -/
def deliver (failing : List Bool) (payload : Value) : Delivery where
  failures := failing.count true
  delivered := (failing.zipIdx.filter fun r => !r.1).map fun r => (r.2, payload)

def ownNames : List String := ["signal", "sender"]

/-- Delivers named parts as one payload. None of them may have a name that the delivery itself uses. -/
def tryDeliver (failing : List Bool) (parts : List (String × Value)) : Except Defect Delivery :=
  if parts.any fun p => ownNames.contains p.1 then .error .wrongKind
  else .ok (deliver failing (.object parts))

end Signal

end Assessment
