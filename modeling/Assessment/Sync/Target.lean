import Assessment.Context
import Assessment.Gradebook.Editing

/-!
# Where a quiz score is entered

An item named after a quiz takes the scores of that quiz; an item for all quizzes takes those of
quizzes without an item of their own.
-/

namespace Assessment.Sync

open Assessment.Gradebook

/-- The first item of a book with a name, without regard to case and blanks around it. -/
def itemNamed? (s : Store) (book : Int) (name : String) : Option GradeItem :=
  (s.items.filter (·.book == book)).find? fun i => nameKey i.name == name

/-- The item that the names of a book's items give for a quiz. -/
def namedTarget? (s : Store) (book : Int) (quiz : Value) : Option GradeItem :=
  (itemNamed? s book (quizItemName quiz)).orElse fun _ => itemNamed? s book commonItemName

/-- The number of the item for the scores of a quiz; the absent value if there is none. -/
def target (ctx : Context) (classSection quiz : Value) (s : Store) : Except Defect Value := do
  match ctx.item? with
  | some item => return item
  | none =>
    let section? ← classSection.probe
    let book := s.books.find? fun b => section?.findsWhole b.classSection
    return .ofInt? ((book.bind fun b => namedTarget? s b.id quiz).map (·.id))

/-- The item that is given as a target. A target that says nothing is none. -/
def targetItem? (item : Value) (s : Store) : Except Defect (Option GradeItem) := do
  if item.truthy then return (← item.keyProbe "grade_item_id").find? s.items else return none

end Assessment.Sync
