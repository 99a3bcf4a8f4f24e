import Assessment.Number.Decimal.Text
import Assessment.Failure
import Assessment.Text.Blank

/-!
# Refusals

A refusal is a reason why the domain does not do what a call asks for. Every rule that can turn a call
down has its own refusal; kind, wording and details of all of them are fixed here.
-/

namespace Assessment

open Assessment.Number

/-- What is wrong with the options of a question. -/
inductive OptionProblem where
  | tooFew
  | notTwo
  | notOneCorrect
  deriving DecidableEq, Repr

def OptionProblem.message : OptionProblem → String
  | tooFew => "A question needs at least two answer options."
  | notTwo => "A true/false question needs exactly two answer options."
  | notOneCorrect => "Exactly one answer option must be marked correct."

/-- Why a score may not be posted into a gradebook. -/
inductive SyncBar where
  | awaitingApproval
  | published
  deriving DecidableEq, Repr

def SyncBar.message : SyncBar → String
  | awaitingApproval => "The gradebook is awaiting approval."
  | published => "The gradebook is already published."

/-- A required score that is missing: an item and an enrollment. -/
abbrev MissingScore := Value × Value

/-- Why a call is turned down. -/
inductive Refusal where
  -- Numbers
  | notPositive (label : String)
  | notANumber (label : String)
  -- Access
  | notSectionTeacher
  | notAdministrator
  | notStudent
  | notEnrolled
  | notTeacher
  -- Things that do not exist
  | quizMissing
  | questionMissing
  | attemptMissing
  | gradebookMissing
  | gradebookUnopenable
  -- Authoring
  | titleMissing
  | titleTooLong
  | totalNotAllowed (allowed : List String)
  | windowInverted
  | questionTextMissing
  | questionKindUnknown (kinds : List String)
  | pointsNotPositive
  | optionTextMissing
  | optionTextTooLong
  | optionsUnsound (problem : OptionProblem)
  | quizNotEditable
  | quizFull (total : Int)
  -- Lifecycle
  | quizNotPublishable
  | questionsIncomplete (total : Int) (count : Nat)
  | questionUnsound (order : String) (problem : OptionProblem)
  | quizNotClosable
  -- Attempts
  | quizNotOpen
  | quizNotYetOpen
  | quizOver
  | alreadyAttempted
  | attemptOfAnother
  | attemptNotViewable
  | alreadySubmitted
  | submissionUnreadable
  | submissionTimedOut
  -- Gradebook
  | messageTooLong
  | gradebookChanged
  | gradebookNotEditable
  | alreadyReviewed
  | gradesUnpublished
  | viewForbidden
  | itemNameMissing
  | itemNameTooLong
  | maxScoreNotPositive
  | weightOutOfRange
  | itemNameTaken
  | scoresMissing
  | cellUnreadable
  | itemForeign (item : Int)
  | enrollmentForeign (enrollment : Int)
  | cellRepeated
  | scoreOutOfRange (item : String) (maximum : Decimal)
  -- Approval
  | approvalNotRequestable
  | requiredScoresMissing (missing : List MissingScore)
  | notAwaitingApproval
  | noPendingRequest
  | rejectionReasonMissing
  -- Posting scores
  | attemptNotSubmitted
  | syncForbidden
  | syncBarred (bar : SyncBar)
  | itemUnmapped
  | syncTimedOut
  | recordChanged
  deriving DecidableEq, Repr

namespace Refusal

/-- The kind of failure that a refusal is answered with. -/
def kind : Refusal → FailureKind
  | notPositive _ | notANumber _ => .invalidInput
  | notSectionTeacher | notAdministrator | notStudent | notEnrolled | notTeacher => .forbidden
  | quizMissing | questionMissing | attemptMissing => .notFound
  | gradebookMissing | gradebookUnopenable => .gradebookNotFound
  | titleMissing | titleTooLong | totalNotAllowed _ | windowInverted => .invalidInput
  | questionTextMissing | questionKindUnknown _ | pointsNotPositive => .invalidInput
  | optionTextMissing | optionTextTooLong | optionsUnsound _ => .invalidInput
  | quizNotEditable | quizFull _ => .invalidState
  | quizNotPublishable | questionsIncomplete .. | questionUnsound .. | quizNotClosable =>
    .invalidState
  | quizNotOpen | quizNotYetOpen | quizOver => .invalidState
  | alreadyAttempted => .conflict
  | attemptOfAnother => .forbidden
  | attemptNotViewable => .invalidState
  | alreadySubmitted => .conflict
  | submissionUnreadable => .invalidInput
  | submissionTimedOut => .cancelled
  | messageTooLong => .invalidInput
  | gradebookChanged => .conflict
  | gradebookNotEditable | alreadyReviewed | gradesUnpublished => .invalidState
  | viewForbidden => .forbidden
  | itemNameMissing | itemNameTooLong | maxScoreNotPositive | weightOutOfRange | itemNameTaken =>
    .invalidInput
  | scoresMissing | cellUnreadable | itemForeign _ | enrollmentForeign _ | cellRepeated =>
    .invalidInput
  | scoreOutOfRange .. => .invalidInput
  | approvalNotRequestable => .invalidState
  | requiredScoresMissing _ => .invalidInput
  | notAwaitingApproval | noPendingRequest => .invalidState
  | rejectionReasonMissing => .invalidInput
  | attemptNotSubmitted => .itemNotFound
  | syncForbidden => .forbidden
  | syncBarred _ => .invalidState
  | itemUnmapped => .gradebookNotFound
  | syncTimedOut => .cancelled
  | recordChanged => .conflict

def message : Refusal → String
  | notPositive label => label ++ " must be a positive integer."
  | notANumber label => label ++ " must be a number."
  | notSectionTeacher => "Only the teacher of this class section may do this."
  | notAdministrator => "Only administrators may do this."
  | notStudent => "Only students may do this."
  | notEnrolled => "You are not enrolled in this class section."
  | notTeacher => "Only teachers have quizzes to manage."
  | quizMissing => "Quiz not found."
  | questionMissing => "Question not found."
  | attemptMissing => "Attempt not found."
  | gradebookMissing => "This class section has no gradebook yet."
  | gradebookUnopenable => "No gradebook can be opened for this class section."
  | titleMissing => "Title is required."
  | titleTooLong => "Title is too long."
  | totalNotAllowed allowed =>
    "Total questions must be one of: " ++ Text.joinWith ", " allowed ++ "."
  | windowInverted => "The quiz must close after it opens."
  | questionTextMissing => "Question text is required."
  | questionKindUnknown kinds =>
    "Question type must be one of: " ++ Text.joinWith ", " kinds ++ "."
  | pointsNotPositive => "Points must be greater than zero."
  | optionTextMissing => "Answer text is required."
  | optionTextTooLong => "Answer text is too long."
  | optionsUnsound problem => problem.message
  | quizNotEditable => "Only draft quizzes can be edited."
  | quizFull total => "This quiz already has its " ++ toString total ++ " questions."
  | quizNotPublishable => "Only draft quizzes can be published."
  | questionsIncomplete total count =>
    "The quiz needs exactly " ++ toString total ++ " questions before publishing (" ++
      toString count ++ " so far)."
  | questionUnsound order problem => "Question " ++ order ++ ": " ++ problem.message
  | quizNotClosable => "Only published quizzes can be closed."
  | quizNotOpen => "This quiz is not open for attempts."
  | quizNotYetOpen => "This quiz has not opened yet."
  | quizOver => "This quiz has already closed."
  | alreadyAttempted => "You have already attempted this quiz."
  | attemptOfAnother => "This attempt belongs to another student."
  | attemptNotViewable => "This attempt has already been submitted."
  | alreadySubmitted => "This attempt has already been submitted."
  | submissionUnreadable => "Each answer needs a numeric question id and answer id."
  | submissionTimedOut => "The submission timed out before it was saved."
  | messageTooLong => "The message is too long."
  | gradebookChanged => "The gradebook was changed by someone else. Reload and try again."
  | gradebookNotEditable => "The gradebook can only be edited while it is a draft or rejected."
  | alreadyReviewed => "This gradebook has already been reviewed."
  | gradesUnpublished => "Grades for this class section have not been published yet."
  | viewForbidden => "You may not view this gradebook."
  | itemNameMissing => "Grade item name is required."
  | itemNameTooLong => "Grade item name is too long."
  | maxScoreNotPositive => "Max score must be greater than zero."
  | weightOutOfRange => "Weight must be between 0 and 1."
  | itemNameTaken => "A grade item with this name already exists."
  | scoresMissing => "No scores were provided."
  | cellUnreadable => "Each score needs a grade item id and an enrollment id."
  | itemForeign item =>
    "Grade item " ++ toString item ++ " does not belong to this gradebook."
  | enrollmentForeign enrollment =>
    "Enrollment " ++ toString enrollment ++ " is not part of this class section."
  | cellRepeated => "The same score cell appears more than once."
  | scoreOutOfRange item maximum =>
    "Scores for \"" ++ item ++ "\" must be between 0 and " ++ maximum.text ++ "."
  | approvalNotRequestable =>
    "Approval can only be requested for a draft or rejected gradebook."
  | requiredScoresMissing missing =>
    toString missing.length ++ " required grade entries are still missing."
  | notAwaitingApproval => "This gradebook is not awaiting approval."
  | noPendingRequest => "This gradebook has no pending approval request."
  | rejectionReasonMissing => "A reason is required to reject a gradebook."
  | attemptNotSubmitted => "No submitted attempt with this id."
  | syncForbidden => "Only the section teacher or an administrator may sync scores."
  | syncBarred bar => bar.message
  | itemUnmapped => "No grade item is mapped to this quiz."
  | syncTimedOut => "The score sync timed out before it was saved."
  | recordChanged => "The record was changed by another request. Reload and try again."

/-- A missing score as a response shows it. -/
def missingScoreValue (m : MissingScore) : Value :=
  .object [("grade_item_id", m.1), ("enrollment_id", m.2)]

def details : Refusal → List (String × Value)
  | quizMissing => [("resource", .text "quiz")]
  | questionMissing => [("resource", .text "question")]
  | attemptMissing | attemptNotSubmitted => [("resource", .text "attempt")]
  | gradebookMissing => [("resource", .text "gradebook")]
  | itemUnmapped => [("resource", .text "grade_item")]
  | alreadyAttempted => [("reason", .text "ALREADY_ATTEMPTED")]
  | requiredScoresMissing missing =>
    [("errors", .object [("missing", .list (missing.map missingScoreValue))])]
  | _ => []

/-- The failure that a refusal is answered with. -/
def failure (r : Refusal) : Failure := ⟨r.kind, r.message, r.details⟩

end Refusal

/-- Why a call does not succeed: the domain refuses, or the call has a defect. -/
inductive Fault where
  | refused (reason : Refusal)
  | crashed (defect : Defect)
  deriving DecidableEq, Repr

/-- The failure of a fault. Defects are not told apart to the outside. -/
def Fault.failure : Fault → Failure
  | refused reason => reason.failure
  | crashed _ => Failure.unexpected

/-- The kind of failure that a fault is answered with. -/
def Fault.kind (f : Fault) : FailureKind := f.failure.kind

end Assessment
