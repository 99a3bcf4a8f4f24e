import Assessment.Amount
import Assessment.Cell
import Assessment.Store.Table
import Assessment.Time.Instant

/-!
# Gradebooks

A section has one gradebook with items, an entry for each item and enrollment, a log of all changes of
entries, and a history of approvals. The version of the book rises with every change.
-/

namespace Assessment

open Assessment.Time

inductive BookStatus where
  | draft
  | pendingApproval
  | published
  | locked
  | rejected
  /-- A state that means nothing here. -/
  | other (name : String)
  deriving DecidableEq, Repr

namespace BookStatus

def all : List BookStatus := [draft, pendingApproval, published, locked, rejected]

def name : BookStatus → String
  | draft => "DRAFT"
  | pendingApproval => "PENDING_APPROVAL"
  | published => "PUBLISHED"
  | locked => "LOCKED"
  | rejected => "REJECTED"
  | other name => name

def ofName (s : String) : BookStatus := (all.find? (·.name == s)).getD (.other s)

end BookStatus

structure GradeBook where
  id : Int
  classSection : Int
  status : BookStatus
  version : Int
  publishedAt : Option Instant
  lockedAt : Option Instant
  createdAt : Instant
  updatedAt : Instant
  deriving DecidableEq, Repr

/-- An item of a gradebook. -/
structure GradeItem where
  id : Int
  book : Int
  name : String
  maxScore : Amount
  weight : Option Amount
  required : Bool
  order : Cell
  createdAt : Instant
  deriving DecidableEq, Repr

/-- The score of an enrollment under an item. -/
structure GradeEntry where
  id : Int
  item : Int
  enrollment : Int
  score : Option Amount
  updatedBy : Option Int
  updatedAt : Instant
  deriving DecidableEq, Repr

/-- The outcome of a request for approval. -/
inductive ApprovalOutcome where
  | pending
  | approved
  | rejected
  /-- An outcome that means nothing here. -/
  | other (name : String)
  deriving DecidableEq, Repr

namespace ApprovalOutcome

def name : ApprovalOutcome → String
  | pending => "PENDING"
  | approved => "APPROVED"
  | rejected => "REJECTED"
  | other name => name

def ofName (s : String) : ApprovalOutcome :=
  ([pending, approved, rejected].find? (·.name == s)).getD (.other s)

end ApprovalOutcome

/-- A request for approval and its answer. -/
structure Approval where
  id : Int
  book : Int
  outcome : ApprovalOutcome
  requestedBy : Int
  requestedAt : Instant
  requestMessage : Option String
  respondedBy : Option Int
  respondedAt : Option Instant
  responseMessage : Option String
  deriving DecidableEq, Repr

/-- One change of an entry's score. -/
structure AuditRow where
  id : Int
  entry : Int
  actor : Option Int
  oldScore : Option Amount
  newScore : Option Amount
  reason : String
  createdAt : Instant
  deriving DecidableEq, Repr

instance : Row GradeBook := ⟨GradeBook.id⟩

instance : Row GradeItem := ⟨GradeItem.id⟩

instance : Row GradeEntry := ⟨GradeEntry.id⟩

instance : Row Approval := ⟨Approval.id⟩

instance : Row AuditRow := ⟨AuditRow.id⟩

namespace Gradebook

def maxNameLength : Nat := 200

/-- The reason of a change that a teacher gives none for. -/
def manualReason : String := "TEACHER_MANUAL_EDIT"

/-- The reason of a change that a posted quiz score makes. -/
def syncReason : String := "AUTO_SYNC_FROM_QUIZ"

end Gradebook

end Assessment
