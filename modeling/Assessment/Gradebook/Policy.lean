import Assessment.Gradebook.Basic
import Assessment.Refusal
import Assessment.Value.Display
import Assessment.Value.Equality

/-!
# Rules of the approval workflow

A book is edited as a draft and after a rejection, shown to students once it is published, and closed
to posted scores while it awaits approval.
-/

namespace Assessment

namespace BookStatus

/-- May teachers edit a book in this state? -/
def isEditable (s : BookStatus) : Bool := s == draft || s == rejected

/-- Do students see a book in this state? -/
def isVisible (s : BookStatus) : Bool := s == published || s == locked

/-- Why a score may not be posted into a book in this state. -/
def syncBar? (s : BookStatus) (allowLate : Bool) : Option SyncBar :=
  if s = pendingApproval then some .awaitingApproval
  else if s.isVisible && !allowLate then some .published
  else none

end BookStatus

namespace Gradebook

/-- Is the score of an enrollment under an item among those that are there? -/
def isScored (scored : List (Value × Value)) (item enrollment : Value) : Bool :=
  scored.any fun s => s.1.same item && s.2.same enrollment

/-- The required scores that are missing, item by item. -/
def missingScores (required enrollments : List Value) (scored : List (Value × Value)) :
    List MissingScore :=
  required.flatMap fun item =>
    (enrollments.filter fun e => !isScored scored item e).map fun e => (item, e)

/-- The required scores that are missing. Items and enrollments that cannot be keys are a defect, as
soon as there is a pair to look for. -/
def tryMissingScores (required enrollments : List Value) (scored : List (Value × Value)) :
    Except Defect (List MissingScore) :=
  if (required.isEmpty || enrollments.isEmpty || (required ++ enrollments).all Value.isKey) &&
      scored.all (fun s => s.1.isKey && s.2.isKey) then
    .ok (missingScores required enrollments scored)
  else .error .wrongKind

/-- The name of the item that a quiz has to itself. -/
def quizItemName (quiz : Value) : String := "QUIZ:" ++ quiz.display

/-- The name of the item that quizzes without an own item share. -/
def commonItemName : String := "QUIZ"

end Gradebook

end Assessment
