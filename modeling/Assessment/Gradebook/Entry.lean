import Assessment.Gradebook.Policy
import Assessment.Gradebook.Score
import Assessment.Store.Transaction

/-!
# Changes of gradebooks

Every change of a book is checked against the version that was read, raises the version by one, and
leaves a row in the log for each score that it changes.
-/

namespace Assessment.Gradebook

open Assessment.Number Assessment.Time

/-- A book after a change: the next version, at this time. -/
def touched (now : Instant) (b : GradeBook) : GradeBook :=
  { b with version := b.version + 1, updatedAt := now }

/-- Changes the row of a book that has not changed since it was read. -/
def changeBook (seen : GradeBook) (f : GradeBook → GradeBook) : Change Unit := fun s =>
  if s.books.any fun b => b.id == seen.id && b.version == seen.version then
    .ok ((), { s with books := Table.modify seen.id f s.books })
  else .error .stale

/-- Adds a book to a section that has none. -/
def insertBook (classSection : Int) (now : Instant) : Change GradeBook := fun s => do
  requireStorable [classSection]
  requireRow classSection s.classSections
  if (s.bookOf? classSection).isSome then throw .constraint
  let row : GradeBook := ⟨Table.nextId s.books, classSection, .draft, 1, none, none, now, now⟩
  return (row, { s with books := s.books ++ [row] })

/-- A score that is to be entered. -/
structure ScoreChange where
  item : Int
  enrollment : Int
  score : Option Decimal
  actor : Value
  reason : String
  deriving DecidableEq, Repr

/-- Does a score differ from the one that is entered? A missing entry and an absent score are the
same. -/
def ScoreChange.changes (c : ScoreChange) (entry : Option GradeEntry) : Except Defect Bool :=
  match entry with
  | none => .ok c.score.isSome
  | some e => do
    let same ← sameScore (e.score.map Amount.toDecimal) c.score
    return !same

/-- The row of an entry that takes a score from a user or from the program. -/
def entered (c : ScoreChange) (actor : Option Int) (now : Instant) (e : GradeEntry) : GradeEntry :=
  { e with score := c.score.bind Amount.ofDecimal?, updatedBy := actor, updatedAt := now }

/-- The entries after a score is entered, with the number of its entry. -/
def enter (c : ScoreChange) (actor : Option Int) (now : Instant) (entries : List GradeEntry)
    (entry : Option GradeEntry) : Int × List GradeEntry :=
  match entry with
  | some e => (e.id, Table.modify e.id (entered c actor now) entries)
  | none =>
    let id := Table.nextId entries
    (id, entries ++ [entered c actor now ⟨id, c.item, c.enrollment, none, none, now⟩])

/-- Enters a score and logs the change. -/
def applyScore (c : ScoreChange) (now : Instant) : Change Unit := fun s => do
  requireStorable [c.item, c.enrollment]
  requireEncoding [c.reason]
  let actor ← columnOf c.actor
  requireRow c.item s.items
  requireRow c.enrollment s.enrollments
  let actor ← reference actor s.users
  let entry := s.entryOf? c.item c.enrollment
  let (id, entries) := enter c actor now s.entries entry
  let row : AuditRow := ⟨Table.nextId s.audits, id, actor, entry.bind (·.score),
    c.score.bind Amount.ofDecimal?, c.reason, now⟩
  return ((), { s with entries, audits := s.audits ++ [row] })

end Assessment.Gradebook
