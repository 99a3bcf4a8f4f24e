import Assessment.Gradebook.Editing

/-!
# Approval

A teacher asks for approval of a complete book; an administrator approves it, which publishes it, or
rejects it with a reason, which gives it back to the teacher.
-/

namespace Assessment.Gradebook

open Assessment.Access Assessment.Request Assessment.Time

/-- A book with a request for its approval or the answer to one. -/
structure Review where
  book : GradeBook
  approval : Approval
  deriving DecidableEq, Repr

/-- The scores that a book must have before it is approved and does not have. -/
def missingFor (s : Store) (book : Int) (enrollments : List Value) :
    Except Defect (List MissingScore) :=
  let required := ((s.itemsOf book).filter (·.required)).map fun i => Value.int i.id
  let scored := (s.entries.filter (·.score.isSome)).map fun e =>
    (Value.int e.item, Value.int e.enrollment)
  tryMissingScores required enrollments scored

def requested (now : Instant) (b : GradeBook) : GradeBook :=
  touched now { b with status := .pendingApproval }

/-- Adds a request to the history of a book that has not changed since it was read. -/
def insertRequest (seen : GradeBook) (teacher : Value) (message : Option String) (now : Instant) :
    Change Review := fun s => do
  let (_, s) ← changeBook seen (requested now) s
  requireEncoding message.toList
  let teacher ← columnOf teacher
  let teacher ← requiredReference teacher s.users
  let row : Approval := ⟨Table.nextId s.approvals, seen.id, .pending, teacher, now, message, none,
    none, none⟩
  return (⟨requested now seen, row⟩, { s with approvals := s.approvals ++ [row] })

/-- Checks that a book is complete and puts it up for approval. -/
def openRequest (ctx : Context) (caller : Caller) (classSection message expected : Value) :
    Transaction Review := fun s => do
  let id ← readPositive "Class section id" classSection
  requireSectionTeacher (ctx.directory s) caller (.int id)
  let message ← readMessage? message
  let book ← existingBook id s
  if !book.status.isEditable then throw (.refused .approvalNotRequestable)
  checkVersion book expected
  let enrollments ← ((ctx.directory s).enrollments (.int id) : Except Defect _)
  let missing ← (missingFor s book.id enrollments : Except Defect _)
  if !missing.isEmpty then throw (.refused (.requiredScoresMissing missing))
  return .change .gradebookChanged (insertRequest book caller.id message ctx.now)

def requestApproval (ctx : Context) (caller : Caller) (classSection message expected : Value) :
    Action Review := do
  let r ← Action.commit (openRequest ctx caller classSection message expected)
  Action.send (.reviewRequested r.book.id r.book.classSection caller.id r.approval.requestMessage)
  return r

inductive Verdict where
  | approve
  | reject
  deriving DecidableEq, Repr

def judged (verdict : Verdict) (now : Instant) (b : GradeBook) : GradeBook :=
  touched now
    (match verdict with
    | .approve => { b with status := .published, publishedAt := some now }
    | .reject => { b with status := .rejected })

/-- The outcome that a verdict gives a request. -/
def Verdict.outcome : Verdict → ApprovalOutcome
  | approve => .approved
  | reject => .rejected

def answered (verdict : Verdict) (admin : Option Int) (message : Option String) (now : Instant)
    (a : Approval) : Approval :=
  { a with
    outcome := verdict.outcome
    respondedBy := admin
    respondedAt := some now
    responseMessage := message }

/-- What a violation by an answer is: a defect in any case. -/
def answerDefect : Violation → Fault
  | .unfit defect => .crashed defect
  | .constraint | .stale => .crashed .broken

def updateRequest (verdict : Verdict) (approval : Approval) (admin : Value)
    (message : Option String) (now : Instant) : Change Approval := fun s => do
  requireEncoding message.toList
  let admin ← columnOf admin
  let admin ← reference admin s.users
  let answer := answered verdict admin message now
  return (answer approval, { s with approvals := Table.modify approval.id answer s.approvals })

/-- Answers a request, if the book has not changed since it was read. An administrator who is no user
is a defect. -/
def answerRequest (verdict : Verdict) (book : GradeBook) (approval : Approval) (admin : Value)
    (message : Option String) (now : Instant) (s : Store) : Except Fault (Review × Store) :=
  match changeBook book (judged verdict now) s with
  | .error _ => .error (.refused .alreadyReviewed)
  | .ok (_, s) => do
    let (answer, s) ← (updateRequest verdict approval admin message now s).mapError answerDefect
    return (⟨judged verdict now book, answer⟩, s)

/-- The message of a verdict; a rejection needs one. -/
def verdictMessage (verdict : Verdict) (v : Value) : Except Fault (Option String) := do
  let message ← readMessage? v
  if verdict = .reject ∧ message.isNone then throw (.refused .rejectionReasonMissing)
  return message

/-- Decides on the pending request of a book. -/
def decideRequest (verdict : Verdict) (ctx : Context) (caller : Caller)
    (classSection message expected : Value) : Transaction Review := fun s => do
  requireAdministrator caller
  let message ← verdictMessage verdict message
  let id ← readPositive "Class section id" classSection
  let book ← existingBook id s
  if book.status ≠ .pendingApproval then throw (.refused .notAwaitingApproval)
  checkVersion book expected
  match s.lastApproval? book.id with
  | none => throw (.refused .noPendingRequest)
  | some approval =>
    if approval.outcome ≠ .pending then throw (.refused .noPendingRequest)
    return .write (answerRequest verdict book approval caller.id message ctx.now)

def verdictSignal (verdict : Verdict) (r : Review) (admin : Value) : Signal :=
  match verdict with
  | .approve => .bookApproved r.book.id r.book.classSection admin r.approval.responseMessage
  | .reject => .bookRejected r.book.id r.book.classSection admin r.approval.responseMessage

def decide (verdict : Verdict) (ctx : Context) (caller : Caller)
    (classSection message expected : Value) : Action Review := do
  let r ← Action.commit (decideRequest verdict ctx caller classSection message expected)
  Action.send (verdictSignal verdict r caller.id)
  return r

end Assessment.Gradebook
