import Assessment.Sync.Target

/-!
# Posting scores

The score of a submitted attempt is projected onto the scale of its grade item and entered for the
attempt's enrollment. Posting the same score again changes nothing. A post that meets another writer
is tried again.
-/

namespace Assessment.Sync

open Assessment.Access Assessment.Gradebook Assessment.Number Assessment.Request Assessment.Time

/-- A score that was posted, and whether that changed the entry. -/
structure Posted where
  attempt : Int
  item : Int
  enrollment : Int
  score : Decimal
  changed : Bool
  deriving DecidableEq, Repr

/-- The program itself, which posts scores as a caller without a number. -/
def program : Caller := ⟨.null, ""⟩

/-- A user who posts scores manages the section. -/
def requirePoster (ctx : Context) (poster : Caller) (classSection : Int) (s : Store) :
    Except Fault Unit := do
  if !poster.id.isNull then
    if !(← canManage (ctx.directory s) poster (.int classSection)) then
      throw (.refused .syncForbidden)

def submittedAttempt (attempt : Int) (s : Store) : Except Fault Attempt := do
  match ← readRow? attempt s.attempts with
  | none => throw (.refused .attemptNotSubmitted)
  | some a =>
    if a.status ≠ .submitted then throw (.refused .attemptNotSubmitted)
    return a

def postableBook (ctx : Context) (classSection : Int) (s : Store) : Except Fault GradeBook := do
  let book ← existingBook classSection s
  match book.status.syncBar? ctx.settings.lateCorrections.truthy with
  | some bar => throw (.refused (.syncBarred bar))
  | none => return book

/-- The item of a book that takes the scores of a quiz. -/
def postableItem (ctx : Context) (book : GradeBook) (classSection quiz : Int) (s : Store) :
    Except Fault GradeItem := do
  let item ← (target ctx (.int classSection) (.int quiz) s : Except Defect Value)
  match ← (targetItem? item s : Except Defect _) with
  | none => throw (.refused .itemUnmapped)
  | some item =>
    if item.book ≠ book.id then throw (.refused .itemUnmapped)
    return item

/-- Enters a posted score into a book that has not changed since it was read. -/
def enterPosted (book : GradeBook) (change : ScoreChange) (now : Instant) : Change Unit :=
  fun s => do
    let (_, s) ← changeBook book (touched now) s
    applyScore change now s

def postOnce (ctx : Context) (attempt : Int) (poster : Caller) (reason : Value)
    (deadline : Option Instant) : Transaction Posted := fun s => do
  let a ← submittedAttempt attempt s
  requirePoster ctx poster a.classSection s
  let book ← postableBook ctx a.classSection s
  let item ← postableItem ctx book a.classSection a.quiz s
  let score ← (scale (a.score.map Amount.toDecimal) (a.maxScore.map Amount.toDecimal)
    item.maxScore.toDecimal : Except Defect _)
  let reason ← reasonOr reason syncReason
  let change : ScoreChange := ⟨item.id, a.enrollment, some score, poster.id, reason⟩
  let changed ← (change.changes (s.entryOf? item.id a.enrollment) : Except Defect _)
  if isExpired ctx.now deadline then throw (.refused .syncTimedOut)
  let posted : Posted := ⟨a.id, item.id, a.enrollment, score, changed⟩
  if changed then
    return .change .recordChanged fun s => do
      let (_, s) ← enterPosted book change ctx.now s
      return (posted, s)
  else return .keep posted

/-- Is a fault a conflict with another writer, which a further try may avoid? -/
def isConflict : Fault → Bool
  | .refused reason => reason.kind == .conflict
  | .crashed _ => false

/-- Tries a transaction until it meets no other writer, at most once more than the number of
retries. -/
def retrying {α : Type} (t : Transaction α) : Nat → Action α
  | 0 => Action.commit t
  | retries + 1 => do
    match ← Action.outcome (Action.commit t) with
    | .ok a => return a
    | .error fault => if isConflict fault then retrying t retries else throw fault

/-- What posting a score depends on. -/
structure PostRequest where
  attempt : Value
  poster : Caller
  reason : Value
  timeout : Value

/-- Posts the score of an attempt. A negative number of retries leaves no try at all, and so no
answer. -/
def post (ctx : Context) (r : PostRequest) : Action (Option Posted) := do
  let attempt ← Action.read fun _ => readPositive "Attempt id" r.attempt
  let deadline ← Action.read fun _ => readDeadline? ctx.now r.timeout
  let retries ← Action.read fun _ => readSetting ctx.settings.conflictRetries
  if retries < 0 then return none
  some <$> retrying (postOnce ctx attempt r.poster r.reason deadline) retries.toNat

end Assessment.Sync
