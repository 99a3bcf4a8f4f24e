import Assessment.Attempt.Basic
import Assessment.Gradebook.Basic
import Assessment.Quiz.Basic
import Assessment.School
import Assessment.Sorting
import Assessment.Sync.Job

/-!
# The store

All tables of the school and of its assessments.
-/

namespace Assessment

structure Store where
  users : List User
  classSections : List ClassSection
  enrollments : List Enrollment
  quizzes : List Quiz
  questions : List Question
  options : List AnswerOption
  attempts : List Attempt
  selections : List Selection
  books : List GradeBook
  items : List GradeItem
  entries : List GradeEntry
  approvals : List Approval
  audits : List AuditRow
  jobs : List SyncJob
  deriving DecidableEq, Repr

namespace Store

/-- A store without assessments. -/
def ofSchool (users : List User) (classSections : List ClassSection)
    (enrollments : List Enrollment) : Store where
  users
  classSections
  enrollments
  quizzes := []
  questions := []
  options := []
  attempts := []
  selections := []
  books := []
  items := []
  entries := []
  approvals := []
  audits := []
  jobs := []

def directory (s : Store) : Access.Directory :=
  .tabled (s.classSections.map fun c => ⟨c.id, c.teacher⟩)
    (s.enrollments.filterMap Enrollment.membership?)

/-- Rows by place, those of one place by number. -/
def inOrder {α : Type} [Row α] (place : α → Cell) (rows : List α) : List α :=
  sortBy (fun a b => (place a).le (place b) && (!(place b).le (place a) || Row.id a ≤ Row.id b)) rows

/-- The questions of a quiz in order. -/
def questionsOf (s : Store) (quiz : Int) : List Question :=
  inOrder Question.order (s.questions.filter (·.quiz == quiz))

/-- The options of a question by number. -/
def optionsOf (s : Store) (question : Int) : List AnswerOption :=
  sortBy (fun a b => a.id ≤ b.id) (s.options.filter (·.question == question))

def bookOf? (s : Store) (classSection : Int) : Option GradeBook :=
  s.books.find? (·.classSection == classSection)

/-- The items of a book in order. -/
def itemsOf (s : Store) (book : Int) : List GradeItem :=
  inOrder GradeItem.order (s.items.filter (·.book == book))

/-- The entry of an enrollment under an item. -/
def entryOf? (s : Store) (item enrollment : Int) : Option GradeEntry :=
  s.entries.find? fun e => e.item == item && e.enrollment == enrollment

/-- The last request for approval of a book. -/
def lastApproval? (s : Store) (book : Int) : Option Approval :=
  Table.latest? (·.book == book) s.approvals

def jobOf? (s : Store) (attempt : Int) : Option SyncJob :=
  s.jobs.find? (·.attempt == attempt)

end Store

end Assessment
