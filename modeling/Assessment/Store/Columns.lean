import Assessment.Store.Basic
import Assessment.Store.Column

/-!
# The tables by columns

The names of tables and columns, and what is found in them.
-/

namespace Assessment

def User.columns : List (Column User) :=
  [.whole "user_id" User.id, .words "user_role" User.role, .truth "is_enabled" User.enabled]

def ClassSection.columns : List (Column ClassSection) :=
  [.whole "class_section_id" ClassSection.id, .whole? "teacher_id" ClassSection.teacher]

def Enrollment.columns : List (Column Enrollment) :=
  [.whole "enrollment_id" Enrollment.id, .whole "student_id" Enrollment.student,
    .whole "class_section_id" Enrollment.classSection, .words "status" (·.status.name)]

def Quiz.columns : List (Column Quiz) :=
  [.whole "quiz_id" Quiz.id, .whole "class_section_id" Quiz.classSection,
    .whole "created_by" Quiz.author, .words "title" Quiz.title,
    .text "description" Quiz.description, .whole "total_questions" Quiz.total,
    .number "time_limit_minutes" Quiz.timeLimit, .truth "shuffle_questions" Quiz.shuffleQuestions,
    .truth "shuffle_answers" Quiz.shuffleOptions, .time "start_at" Quiz.startAt,
    .time "end_at" Quiz.endAt, .words "status" (·.status.name),
    .time "published_at" Quiz.publishedAt, .time "closed_at" Quiz.closedAt,
    .instant "created_at" Quiz.createdAt]

def Question.columns : List (Column Question) :=
  [.whole "question_id" Question.id, .whole "quiz_id" Question.quiz,
    .words "question_text" Question.text, .words "question_type" (·.kind.name),
    .amount "points" 2 (some ·.points), .number "sort_order" (some ·.order)]

def AnswerOption.columns : List (Column AnswerOption) :=
  [.whole "answer_id" AnswerOption.id, .whole "question_id" AnswerOption.question,
    .words "answer_text" AnswerOption.text, .truth "is_correct" AnswerOption.correct]

def Attempt.columns : List (Column Attempt) :=
  [.whole "attempt_id" Attempt.id, .whole "quiz_id" Attempt.quiz,
    .whole "student_id" Attempt.student, .whole "enrollment_id" Attempt.enrollment,
    .whole "class_section_id" Attempt.classSection, .instant "started_at" Attempt.startedAt,
    .time "submitted_at" Attempt.submittedAt, .words "status" (·.status.name),
    .amount "score" 2 Attempt.score, .amount "max_score" 2 Attempt.maxScore,
    .whole? "correct_count" (·.correctCount.map Int.ofNat),
    .whole? "total_count" (·.totalCount.map Int.ofNat), .truth "is_late" Attempt.late,
    .text "shuffle_seed" Attempt.seed]

def Selection.columns : List (Column Selection) :=
  [.whole "attempt_answer_id" Selection.id, .whole "attempt_id" Selection.attempt,
    .whole "question_id" Selection.question, .whole? "selected_answer_id" Selection.selected,
    .truth "is_correct" Selection.correct]

def GradeBook.columns : List (Column GradeBook) :=
  [.whole "grade_book_id" GradeBook.id, .whole "class_section_id" GradeBook.classSection,
    .words "status" (·.status.name), .whole "version" GradeBook.version,
    .time "published_at" GradeBook.publishedAt, .time "locked_at" GradeBook.lockedAt,
    .instant "created_at" GradeBook.createdAt, .instant "updated_at" GradeBook.updatedAt]

def GradeItem.columns : List (Column GradeItem) :=
  [.whole "grade_item_id" GradeItem.id, .whole "grade_book_id" GradeItem.book,
    .words "item_name" GradeItem.name, .amount "max_score" 2 (some ·.maxScore),
    .amount "weight" 4 GradeItem.weight, .truth "is_required" GradeItem.required,
    .number "sort_order" (some ·.order), .instant "created_at" GradeItem.createdAt]

def GradeEntry.columns : List (Column GradeEntry) :=
  [.whole "grade_entry_id" GradeEntry.id, .whole "grade_item_id" GradeEntry.item,
    .whole "enrollment_id" GradeEntry.enrollment, .amount "score" 2 GradeEntry.score,
    .whole? "updated_by" GradeEntry.updatedBy, .instant "updated_at" GradeEntry.updatedAt]

def Approval.columns : List (Column Approval) :=
  [.whole "approval_id" Approval.id, .whole "grade_book_id" Approval.book,
    .words "outcome" (·.outcome.name), .whole "request_by" Approval.requestedBy,
    .instant "request_at" Approval.requestedAt, .text "request_message" Approval.requestMessage,
    .whole? "response_by" Approval.respondedBy, .time "response_at" Approval.respondedAt,
    .text "response_message" Approval.responseMessage]

/-- The columns of a row of the log. -/
def AuditRow.columns : List (Column AuditRow) :=
  [.whole "audit_id" AuditRow.id, .whole "grade_entry_id" AuditRow.entry,
    .whole? "actor_user_id" AuditRow.actor, .amount "old_score" 2 AuditRow.oldScore,
    .amount "new_score" 2 AuditRow.newScore, .words "reason" AuditRow.reason,
    .instant "created_at" AuditRow.createdAt]

def SyncJob.columns : List (Column SyncJob) :=
  [.whole "job_id" SyncJob.id, .whole "attempt_id" SyncJob.attempt,
    .words "status" (·.status.name), .whole "attempts" SyncJob.runs,
    .text "last_error_code" SyncJob.errorCode, .text "last_error_message" SyncJob.errorMessage,
    .instant "next_run_at" SyncJob.nextRunAt, .instant "created_at" SyncJob.createdAt,
    .instant "updated_at" SyncJob.updatedAt]

inductive TableName where
  | users
  | classSections
  | enrollments
  | quizzes
  | questions
  | options
  | attempts
  | selections
  | books
  | items
  | entries
  | approvals
  | audits
  | jobs
  deriving DecidableEq, Repr

namespace TableName

def assessment : List TableName :=
  [quizzes, questions, options, attempts, selections, books, items, entries, approvals, audits, jobs]

def all : List TableName := [users, classSections, enrollments] ++ assessment

def name : TableName → String
  | users => "users"
  | classSections => "class_sections"
  | enrollments => "enrollments"
  | quizzes => "quizzes"
  | questions => "quiz_questions"
  | options => "quiz_answers"
  | attempts => "quiz_attempts"
  | selections => "quiz_attempt_answers"
  | books => "grade_books"
  | items => "grade_items"
  | entries => "grade_entries"
  | approvals => "grade_book_approvals"
  | audits => "grade_audit_logs"
  | jobs => "score_sync_jobs"

def ofName? (s : String) : Option TableName := all.find? (·.name == s)

/-- The table of a name; there must be one. -/
def ofName (s : String) : Except Defect TableName :=
  match ofName? s with
  | some t => .ok t
  | none => .error .missingKey

end TableName

/-- A table of the store: its columns, its rows, and the store with other rows in it. -/
structure Relation where
  Entry : Type
  columns : List (Column Entry)
  id : Entry → Int
  rows : Store → List Entry
  withRows : List Entry → Store → Store

def TableName.relation : TableName → Relation
  | users => ⟨User, User.columns, User.id, Store.users, fun users s => { s with users }⟩
  | classSections =>
    ⟨ClassSection, ClassSection.columns, ClassSection.id, Store.classSections,
      fun classSections s => { s with classSections }⟩
  | enrollments =>
    ⟨Enrollment, Enrollment.columns, Enrollment.id, Store.enrollments,
      fun enrollments s => { s with enrollments }⟩
  | quizzes => ⟨Quiz, Quiz.columns, Quiz.id, Store.quizzes, fun quizzes s => { s with quizzes }⟩
  | questions =>
    ⟨Question, Question.columns, Question.id, Store.questions,
      fun questions s => { s with questions }⟩
  | options =>
    ⟨AnswerOption, AnswerOption.columns, AnswerOption.id, Store.options,
      fun options s => { s with options }⟩
  | attempts =>
    ⟨Attempt, Attempt.columns, Attempt.id, Store.attempts, fun attempts s => { s with attempts }⟩
  | selections =>
    ⟨Selection, Selection.columns, Selection.id, Store.selections,
      fun selections s => { s with selections }⟩
  | books => ⟨GradeBook, GradeBook.columns, GradeBook.id, Store.books,
      fun books s => { s with books }⟩
  | items => ⟨GradeItem, GradeItem.columns, GradeItem.id, Store.items,
      fun items s => { s with items }⟩
  | entries =>
    ⟨GradeEntry, GradeEntry.columns, GradeEntry.id, Store.entries,
      fun entries s => { s with entries }⟩
  | approvals =>
    ⟨Approval, Approval.columns, Approval.id, Store.approvals,
      fun approvals s => { s with approvals }⟩
  | audits =>
    ⟨AuditRow, AuditRow.columns, AuditRow.id, Store.audits, fun audits s => { s with audits }⟩
  | jobs => ⟨SyncJob, SyncJob.columns, SyncJob.id, Store.jobs, fun jobs s => { s with jobs }⟩

/-- A row with the names of its columns. -/
def Column.report {α : Type} (columns : List (Column α)) (row : α) : Value :=
  .object (columns.map fun c => (c.name, c.value row))

def Relation.report (t : Relation) (s : Store) : Value :=
  .list ((sortBy (fun a b => t.id a ≤ t.id b) (t.rows s)).map (Column.report t.columns))

def Store.dump (tables : List TableName) (s : Store) : Value :=
  .object (tables.map fun t => (t.name, t.relation.report s))

end Assessment
