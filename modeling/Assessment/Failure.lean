import Assessment.Defect
import Assessment.Value

/-!
# Failures

A failure is the answer of a call that did not succeed: a code that a program can act on, a message
for a person, and details. Each code has one response status.
-/

namespace Assessment

/-- The kinds of failures that calls answer with. -/
inductive FailureKind where
  | invalidInput
  | forbidden
  | notFound
  | itemNotFound
  | gradebookNotFound
  | invalidState
  | conflict
  | cancelled
  | unauthenticated
  | internal
  deriving DecidableEq, Repr

namespace FailureKind

def all : List FailureKind :=
  [.invalidInput, .forbidden, .notFound, .itemNotFound, .gradebookNotFound, .invalidState,
    .conflict, .cancelled, .unauthenticated, .internal]

def code : FailureKind → String
  | invalidInput => "INVALID_INPUT"
  | forbidden => "FORBIDDEN"
  | notFound => "NOT_FOUND"
  | itemNotFound => "ITEM_NOT_FOUND"
  | gradebookNotFound => "GRADEBOOK_NOT_FOUND"
  | invalidState => "INVALID_STATE"
  | conflict => "CONFLICT"
  | cancelled => "CANCELLED"
  | unauthenticated => "UNAUTHENTICATED"
  | internal => "INTERNAL_ERROR"

def status : FailureKind → Nat
  | invalidInput => 400
  | unauthenticated => 401
  | forbidden => 403
  | notFound | itemNotFound | gradebookNotFound => 404
  | invalidState | conflict | cancelled => 409
  | internal => 500

/-- The message of a failure that gives none. -/
def defaultMessage : FailureKind → String
  | invalidInput => "Invalid input"
  | forbidden => "Access denied"
  | notFound => "Resource not found"
  | itemNotFound => "Item not found"
  | gradebookNotFound => "Gradebook not found"
  | invalidState => "Invalid state"
  | conflict => "Conflict"
  | cancelled => "Operation cancelled before commit"
  | unauthenticated => "Authentication required."
  | internal => "An unexpected error occurred. Please try again later."

/-- The name of the one detail that a kind may carry. -/
def detailName? : FailureKind → Option String
  | invalidInput => some "errors"
  | notFound | itemNotFound | gradebookNotFound => some "resource"
  | conflict => some "reason"
  | _ => none

def ofCode? (code : String) : Option FailureKind := all.find? (·.code == code)

end FailureKind

/-- A failure of a kind, with a message and details. -/
structure Failure where
  kind : FailureKind
  message : String
  details : List (String × Value)
  deriving DecidableEq, Repr

namespace Failure

def status (f : Failure) : Nat := f.kind.status

/-- The failure of a call that went wrong in a way that no answer foresees. -/
def unexpected : Failure := ⟨.internal, FailureKind.internal.defaultMessage, []⟩

/-- The failure as a response body, which leaves out empty details. -/
def report (f : Failure) : Value :=
  .object ([("success", .bool false), ("code", .text f.kind.code), ("message", .text f.message)] ++
    if f.details.isEmpty then [] else [("details", (Value.object f.details).plain)])

end Failure

end Assessment
