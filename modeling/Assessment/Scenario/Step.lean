import Assessment.Api.Answer
import Assessment.Scenario.Build
import Assessment.Scenario.Rival
import Assessment.Store.Direct

/-!
# The steps of a scenario

A scenario calls operations, asks questions and changes its state, step by step. Each step reports a
value or the defect it ran into, and the signals that were sent.
-/

namespace Assessment.Scenario

open Assessment.Access Assessment.Sync Assessment.Time

/-- Questions and tasks that are no operations of users. -/
inductive Task where
  | enqueue
  | runJob
  | syncNow
  | processPending
  | snapshot
  | gradeItemOf
  | isEnrolled
  | enrollmentOf
  | enrollmentsOf
  | isTeacher
  | sectionsOf
  deriving DecidableEq, Repr

namespace Task

def all : List Task :=
  [enqueue, runJob, syncNow, processPending, snapshot, gradeItemOf, isEnrolled, enrollmentOf,
    enrollmentsOf, isTeacher, sectionsOf]

def name : Task → String
  | enqueue => "enqueue"
  | runJob => "run_job"
  | syncNow => "sync_now"
  | processPending => "process_pending"
  | snapshot => "snapshot"
  | gradeItemOf => "resolve_quiz_grade_item"
  | isEnrolled => "is_enrolled"
  | enrollmentOf => "get_enrollment_id"
  | enrollmentsOf => "list_enrollment_ids"
  | isTeacher => "is_teacher_of"
  | sectionsOf => "list_taught_section_ids"

def ofName? (s : String) : Option Task := all.find? (·.name == s)

def required : Task → List String
  | enqueue | syncNow | snapshot => ["attempt_id"]
  | runJob => ["job_id"]
  | processPending => []
  | gradeItemOf => ["class_section_id", "quiz_id"]
  | isEnrolled | enrollmentOf => ["student_id", "class_section_id"]
  | enrollmentsOf => ["class_section_id"]
  | isTeacher => ["teacher_id", "class_section_id"]
  | sectionsOf => ["teacher_id"]

/-- The parameters that a task can do without. -/
def optional : Task → Arguments
  | processPending => [("now", .null), ("limit", .null)]
  | _ => []

end Task

inductive Step where
  | call (op : Operation) (args : Arguments) (rivals : List Rival)
  | task (t : Task) (args : Arguments) (rivals : List Rival)
  | request (r : Api.Request)
  /-- Runs the queue as the background does, which sees no result. -/
  | pass
  | build (p : QuizPlan)
  | advance (quantities : Arguments)
  | configure (values : Arguments)
  | mapToItem (item : Value)
  | replaceDirectory (d : Directory)
  /-- Receivers that fail are no matter of those who send signals. -/
  | failReceivers
  | set (table : String) (condition values : ColumnValues)
  | delete (table : String) (condition : ColumnValues)
  | dump (tables : List String)

structure StepReport where
  answer : Except Defect Value
  signals : List Signal

/-- The outcome of a call with its status, as scenarios show it. -/
def outcomeValue (o : Outcome) : Value :=
  match o.report with
  | .object members => .object (members ++ [("status", .ofNat o.status)])
  | v => v

/-- The outcome of a call that may have none. -/
def outcomeValue? (o : Option Outcome) : Value := (o.map outcomeValue).getD .null

/-- What became of a run of a job. -/
def runValue : Option (Except Fault Posted) → Value
  | none => .null
  | some (.ok p) => outcomeValue (.success p.report)
  | some (.error fault) => outcomeValue (.failure fault.failure)

def asked (question : Store → Except Defect Value) : Action Value :=
  Action.read fun s => (question s).mapError .crashed

def runTask (ctx : Context) (arg : String → Value) : Task → Action Value
  | .enqueue => do return ((← enqueue ctx (arg "attempt_id")).map jobReport).getD .null
  | .runJob => do return runValue (← runJob ctx (arg "job_id"))
  | .syncNow => do return runValue (← syncNow ctx (arg "attempt_id"))
  | .processPending => do return (← processPending ctx (arg "now") (arg "limit")).report
  | .snapshot => asked fun s => do
    return ((← Attempting.snapshot? (arg "attempt_id") s).map Quiz.snapshotReport).getD .null
  | .gradeItemOf => asked (target ctx (arg "class_section_id") (arg "quiz_id"))
  | .isEnrolled => asked fun s => do
    return .bool !(← (ctx.directory s).enrollment (arg "student_id") (arg "class_section_id")).isNull
  | .enrollmentOf => asked fun s =>
    (ctx.directory s).enrollment (arg "student_id") (arg "class_section_id")
  | .enrollmentsOf => asked fun s => do
    return .list (← (ctx.directory s).enrollments (arg "class_section_id"))
  | .isTeacher => asked fun s => do
    return .bool (← (ctx.directory s).teaches (arg "teacher_id") (arg "class_section_id"))
  | .sectionsOf => asked fun s => do
    return .list (← (ctx.directory s).taught (arg "teacher_id"))

/-- The defect that a fault is to those who run tasks. -/
def defectOf : Fault → Defect
  | .crashed d => d
  | .refused _ => .broken

/-- A task with its arguments, in a session. -/
def answerTask (ctx : Context) (t : Task) (args : Arguments) (s : Session) :
    Except Defect Value × Session :=
  match Arguments.bind t.required t.optional args with
  | .error d => (.error d, s)
  | .ok arg =>
    match runTask ctx arg t s with
    | (r, s) => (r.mapError defectOf, s)

namespace State

def afterSession (st : State) (s : Session) : State := { st with store := s.store }

/-- Runs something in a session on the store. -/
def inSession (st : State) (rivals : List Rival)
    (run : Session → Except Defect Value × Session) : StepReport × State :=
  match run ⟨st.store, rivals.map Rival.apply, []⟩ with
  | (answer, s) => (⟨answer, s.sent⟩, st.afterSession s)

def inCall (st : State) (rivals : List Rival)
    (run : Session → Option Outcome × Session) : StepReport × State :=
  st.inSession rivals fun s =>
    match run s with
    | (o, s) => (.ok (outcomeValue? o), s)

def report (st : State) (v : Value) : StepReport × State := (⟨.ok v, []⟩, st)

def fail (st : State) (d : Defect) : StepReport × State := (⟨.error d, []⟩, st)

/-- Changes a table directly, and reports the number of rows. -/
def inTable (st : State) (table : String)
    (change : TableName → Store → Except Defect (Nat × Store)) : StepReport × State :=
  match TableName.ofName table >>= fun t => change t st.store with
  | .ok (n, store) => { st with store }.report (.object [("rows", .ofNat n)])
  | .error d => st.fail d

def take (st : State) : Step → StepReport × State
  | .call op args rivals => st.inCall rivals (op.answer st.context args)
  | .task t args rivals => st.inSession rivals (answerTask st.context t args)
  | .request r => st.inSession [] fun s =>
    match Api.answer st.context r s with
    | (response, s) =>
      (response.map fun r => .object [("status", .ofNat r.status), ("json", r.body)], s)
  | .pass => st.inSession [] fun s =>
    match answerTask st.context .processPending [] s with
    | (r, s) => (r.map fun _ => .null, s)
  | .build p => st.inCall [] (buildQuiz st.context p)
  | .advance quantities =>
    match Value.toDuration quantities >>= st.context.now.add with
    | .ok now => { st with context := { st.context with now } }.report (.ofInstant now)
    | .error d => st.fail d
  | .configure values =>
    { st with context := { st.context with settings := st.context.settings.setAll values } }.report
      .null
  | .mapToItem item => { st with context := { st.context with item? := some item } }.report .null
  | .replaceDirectory d =>
    { st with context := { st.context with directory? := some d } }.report .null
  | .failReceivers => st.report .null
  | .set table condition values =>
    st.inTable table fun t => Direct.set t condition values
  | .delete table condition => st.inTable table fun t => Direct.delete t condition
  | .dump tables =>
    match tables.mapM TableName.ofName with
    | .ok tables => st.report (st.store.dump tables)
    | .error d => st.fail d

def takeAll (st : State) : List Step → List StepReport
  | [] => []
  | step :: rest =>
    match st.take step with
    | (r, st) => r :: st.takeAll rest

end State

end Assessment.Scenario
