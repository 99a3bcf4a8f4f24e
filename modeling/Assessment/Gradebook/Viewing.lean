import Assessment.Gradebook.Editing

/-!
# Viewing gradebooks

Administrators and the section's teacher see the whole book; a student sees the own entries once the
book is published.
-/

namespace Assessment.Gradebook

open Assessment.Access Assessment.Request

/-- What is shown of a gradebook. -/
structure BookDetail where
  book : GradeBook
  items : List GradeItem
  entries : List GradeEntry
  lastApproval : Option Approval
  deriving DecidableEq, Repr

/-- The entries of a book by enrollment and item. -/
def entriesOf (s : Store) (book : Int) : List GradeEntry :=
  let items := (s.items.filter (·.book == book)).map (·.id)
  sortBy (fun a b => a.enrollment < b.enrollment || (a.enrollment == b.enrollment && a.item ≤ b.item))
    (s.entries.filter fun e => items.contains e.item)

def fullDetail (s : Store) (book : GradeBook) : BookDetail :=
  ⟨book, s.itemsOf book.id, entriesOf s book.id, s.lastApproval? book.id⟩

/-- The book with the entries of one enrollment. -/
def ownDetail (s : Store) (book : GradeBook) (enrollment : Probe) : BookDetail :=
  ⟨book, s.itemsOf book.id,
    (entriesOf s book.id).filter fun e => enrollment.findsWhole e.enrollment, none⟩

/-- What a student sees of a section's book. -/
def studentDetail (ctx : Context) (caller : Caller) (classSection : Int) (s : Store) :
    Except Fault BookDetail := do
  let enrollment ← requireEnrollment (ctx.directory s) caller (.int classSection)
  let book ← existingBook classSection s
  if !book.status.isVisible then throw (.refused .gradesUnpublished)
  return ownDetail s book (← (enrollment.probe : Except Defect Probe))

def seesAll (ctx : Context) (caller : Caller) (classSection : Value) (s : Store) :
    Except Fault (Int × Bool) := do
  let id ← readPositive "Class section id" classSection
  return (id, ← canManage (ctx.directory s) caller (.int id))

/-- Shows a gradebook; for those who see the whole book it is opened if there is none. -/
def detail (ctx : Context) (caller : Caller) (classSection : Value) : Action BookDetail := do
  let (id, all) ← Action.read (seesAll ctx caller classSection)
  if all then
    let book ← Action.commit (openBook ctx id)
    Action.read fun s => return fullDetail s book
  else if caller.actsAs .student then Action.read (studentDetail ctx caller id)
  else throw (.refused .viewForbidden)

end Assessment.Gradebook
