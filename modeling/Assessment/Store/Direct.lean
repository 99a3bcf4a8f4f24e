import Assessment.KeyedList
import Assessment.Store.Columns
import Assessment.Value.Coercion

/-!
# Direct changes of rows

Rows are also set and deleted directly, without the rules of the operations. Only the references
between rows are kept.
-/

namespace Assessment

namespace Store

/-- Every row that another row refers to exists. -/
def referencesHold (s : Store) : Bool :=
  (s.classSections.all fun c => c.teacher.all (Table.has · s.users)) &&
  (s.enrollments.all fun e =>
    Table.has e.student s.users && Table.has e.classSection s.classSections) &&
  (s.quizzes.all fun q => Table.has q.classSection s.classSections && Table.has q.author s.users) &&
  (s.questions.all fun q => Table.has q.quiz s.quizzes) &&
  (s.options.all fun o => Table.has o.question s.questions) &&
  (s.attempts.all fun a =>
    Table.has a.quiz s.quizzes && Table.has a.student s.users &&
      Table.has a.enrollment s.enrollments && Table.has a.classSection s.classSections) &&
  (s.selections.all fun c =>
    Table.has c.attempt s.attempts && Table.has c.question s.questions &&
      c.selected.all (Table.has · s.options)) &&
  (s.books.all fun b => Table.has b.classSection s.classSections) &&
  (s.items.all fun i => Table.has i.book s.books) &&
  (s.entries.all fun e =>
    Table.has e.item s.items && Table.has e.enrollment s.enrollments &&
      e.updatedBy.all (Table.has · s.users)) &&
  (s.approvals.all fun a =>
    Table.has a.book s.books && Table.has a.requestedBy s.users &&
      a.respondedBy.all (Table.has · s.users)) &&
  (s.audits.all fun a => Table.has a.entry s.entries && a.actor.all (Table.has · s.users)) &&
  (s.jobs.all fun j => Table.has j.attempt s.attempts)

end Store

abbrev ColumnValues := List (String × Value)

/-- A column that can be set, and what a value makes of a row; it makes nothing of a row if it is
missing where the column must not be empty. -/
structure Setter (α : Type) where
  name : String
  set : Value → Except Defect (α → Option α)

namespace Setter

variable {α : Type}

/-- A column of texts that may be empty. -/
def text? (name : String) (put : Option String → α → α) : Setter α :=
  ⟨name, fun v => do
    let held ← v.writtenCell?
    return fun row => some (put held row)⟩

/-- A column of texts that must not be empty. -/
def text (name : String) (put : String → α → α) : Setter α :=
  ⟨name, fun v => do
    let held ← v.writtenCell?
    return fun row => held.map (put · row)⟩

/-- A column of numbers that may be empty. -/
def number? (name : String) (put : Option Cell → α → α) : Setter α :=
  ⟨name, fun v => do
    let held ← v.numericCell?
    return fun row => some (put held row)⟩

/-- A column of numbers that must not be empty. -/
def number (name : String) (put : Cell → α → α) : Setter α :=
  ⟨name, fun v => do
    let held ← v.numericCell?
    return fun row => held.map (put · row)⟩

/-- A column of references that may be empty. What is no whole number refers to no row. -/
def reference? (name : String) (put : Option Int → α → α) : Setter α :=
  ⟨name, fun v => do
    match ← v.numericCell? with
    | none => return fun row => some (put none row)
    | some (.whole n) => return fun row => some (put (some n) row)
    | some _ => return fun _ => none⟩

/-- The amount that a column of amounts holds for a value. -/
def amountOf (v : Value) : Except Defect (Option Amount) :=
  if v.isNull then .ok none
  else
    match v.toBinary64 with
    | .ok x => .ok (Amount.ofBinary64? x)
    | .error _ => .error .unfitForColumn

/-- A column of amounts that may be empty. -/
def amount? (name : String) (put : Option Amount → α → α) : Setter α :=
  ⟨name, fun v => do
    let held ← amountOf v
    return fun row => some (put held row)⟩

/-- The truth value that a number says, of those that are zero or one. -/
def truthOf (v : Value) : Except Defect (Option Bool) :=
  if v.isNull then .ok none
  else if v.same (.bool true) then .ok (some true)
  else if v.same (.bool false) then .ok (some false)
  else .error .unfitForColumn

/-- A column of truth values, which must not be empty. -/
def truth (name : String) (put : Bool → α → α) : Setter α :=
  ⟨name, fun v => do
    let held ← truthOf v
    return fun row => held.map (put · row)⟩

end Setter

namespace Direct

/-- The columns of a table that are set directly. -/
def setters : (t : TableName) → List (Setter t.relation.Entry)
  | .users =>
    [.text "user_role" fun role (u : User) => { u with role },
      .truth "is_enabled" fun enabled (u : User) => { u with enabled }]
  | .classSections =>
    [.reference? "teacher_id" fun teacher (c : ClassSection) => { c with teacher }]
  | .enrollments =>
    [.text "status" fun s (e : Enrollment) => { e with status := .ofName s }]
  | .quizzes => [.number? "time_limit_minutes" fun timeLimit (q : Quiz) => { q with timeLimit }]
  | .questions =>
    [.number "sort_order" fun order (q : Question) => { q with order },
      .text "question_type" fun s (q : Question) => { q with kind := ⟨s⟩ }]
  | .options => [.truth "is_correct" fun correct (o : AnswerOption) => { o with correct }]
  | .attempts =>
    [.amount? "score" fun score (a : Attempt) => { a with score },
      .amount? "max_score" fun maxScore (a : Attempt) => { a with maxScore },
      .text? "shuffle_seed" fun seed (a : Attempt) => { a with seed }]
  | .books => [.text "status" fun s (b : GradeBook) => { b with status := .ofName s }]
  | .approvals => [.text "outcome" fun s (a : Approval) => { a with outcome := .ofName s }]
  | .selections | .items | .entries | .audits | .jobs => []

/-- What a condition asks of a row, column by column. -/
def queries {α : Type} (columns : List (Column α)) (condition : ColumnValues) :
    Except Defect (List (Except Defect (α → Bool))) :=
  condition.mapM fun c =>
    match columns.find? (·.name == c.1) with
    | some column => .ok (column.query c.2)
    | none => .error .missingKey

/-- What values make of a row, column by column. A change must set something. -/
def edits {α : Type} (setters : List (Setter α)) (values : ColumnValues) :
    Except Defect (List (Except Defect (α → Option α))) :=
  if values.isEmpty then .error .unfitForColumn
  else values.mapM fun v =>
    match setters.find? (·.name == v.1) with
    | some setter => .ok (setter.set v.2)
    | none => .error .unknownColumn

def defect? {β : Type} : Except Defect β → Option Defect
  | .ok _ => none
  | .error d => some d

/-- The first defect to be found: a value that a column does not take is found before one that the
store cannot hold. -/
def firstDefect? (found : List Defect) : Option Defect :=
  if found.contains .unfitForColumn then some .unfitForColumn else found.head?

/-- Everything that is there, or the first defect. -/
def allOf {β : Type} (found : List Defect) (items : List (Except Defect β)) :
    Except Defect (List β) :=
  match firstDefect? found with
  | some d => .error d
  | none => .ok (items.filterMap Except.toOption)

/-- A direct change as it is made; one that breaks a rule of the store is not made. -/
def checked (rows : Nat) (s : Store) : Except Defect (Nat × Store) :=
  if s.referencesHold then .ok (rows, s) else .error .constraintBroken

/-- Sets columns of the rows of a table that satisfy a condition, and counts those rows. -/
def set (table : TableName) (condition values : ColumnValues) (s : Store) :
    Except Defect (Nat × Store) := do
  let t := table.relation
  let queries ← queries t.columns condition
  let edits ← edits (setters table) values
  let found := edits.filterMap defect? ++ queries.filterMap defect?
  let asked ← allOf found queries
  let edits ← allOf found edits
  let holds := fun row => asked.all (· row)
  let edited := (t.rows s).mapM fun row =>
    if holds row then edits.foldlM (fun row edit => edit row) row else some row
  match edited with
  | some rows => checked ((t.rows s).countP holds) (t.withRows rows s)
  | none => throw .constraintBroken

/-- Deletes the rows of a table that satisfy a condition, and counts them. -/
def delete (table : TableName) (condition : ColumnValues) (s : Store) :
    Except Defect (Nat × Store) := do
  let t := table.relation
  let queries ← queries t.columns condition
  let asked ← allOf (queries.filterMap defect?) queries
  let holds := fun row => asked.all (· row)
  checked ((t.rows s).countP holds) (t.withRows ((t.rows s).filter fun row => !holds row) s)

end Direct

end Assessment
