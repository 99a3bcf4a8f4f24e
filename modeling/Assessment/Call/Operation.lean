import Assessment.Call

/-!
# Operations by name

Every operation has a name and named parameters: those that a call must give, and those that it may
give, with the values they take otherwise.
-/

namespace Assessment

open Assessment.Access Assessment.Gradebook Assessment.Quiz Assessment.Sync

/-- The operations that can be called. -/
inductive Operation where
  | createDraft
  | addQuestion
  | updateQuestion
  | deleteQuestion
  | deleteQuiz
  | getQuestions
  | listForTeacher
  | listPublished
  | publish
  | close
  | startAttempt
  | viewAttempt
  | submitAttempt
  | openBook
  | viewBook
  | addItem
  | upsertScores
  | requestApproval
  | approve
  | reject
  | postScore
  deriving DecidableEq, Repr

namespace Operation

def all : List Operation :=
  [createDraft, addQuestion, updateQuestion, deleteQuestion, deleteQuiz, getQuestions,
    listForTeacher, listPublished, publish, close, startAttempt, viewAttempt, submitAttempt,
    openBook, viewBook, addItem, upsertScores, requestApproval, approve, reject, postScore]

def name : Operation → String
  | createDraft => "create_draft"
  | addQuestion => "add_question"
  | updateQuestion => "update_question"
  | deleteQuestion => "delete_question"
  | deleteQuiz => "delete_quiz"
  | getQuestions => "get_questions"
  | listForTeacher => "list_for_teacher"
  | listPublished => "list_published_for_class"
  | publish => "publish"
  | close => "close"
  | startAttempt => "start_attempt"
  | viewAttempt => "get_attempt_view"
  | submitAttempt => "submit_attempt"
  | openBook => "get_or_create"
  | viewBook => "get_detail"
  | addItem => "add_grade_item"
  | upsertScores => "upsert_scores"
  | requestApproval => "request_approval"
  | approve => "approve"
  | reject => "reject"
  | postScore => "sync_attempt_score"

def ofName? (s : String) : Option Operation := all.find? (·.name == s)

/-- The parameter that holds the number of the caller. -/
def callerName : Operation → String
  | listPublished | startAttempt | viewAttempt | submitAttempt => "student_id"
  | viewBook | postScore => "actor_id"
  | approve | reject => "admin_id"
  | _ => "teacher_id"

def questionNames : List String := ["text", "question_type", "points", "answers"]

/-- The parameters that a call gives besides the caller. -/
def ownNames : Operation → List String
  | createDraft => ["class_section_id", "title", "total_questions"]
  | addQuestion => "quiz_id" :: questionNames
  | updateQuestion => "question_id" :: questionNames
  | deleteQuestion => ["question_id"]
  | deleteQuiz | getQuestions | publish | close | startAttempt => ["quiz_id"]
  | listForTeacher => []
  | listPublished | viewBook | requestApproval | approve | openBook => ["class_section_id"]
  | viewAttempt | submitAttempt | postScore => ["attempt_id"]
  | addItem => ["class_section_id", "name", "max_score"]
  | upsertScores => ["class_section_id", "score_cells"]
  | reject => ["class_section_id", "message"]

/-- The parameters that a call must give. Nobody in particular opens a book, and a score may be posted
without a caller. -/
def required (op : Operation) : List String :=
  match op with
  | openBook | postScore => op.ownNames
  | _ => [op.callerName, "role"] ++ op.ownNames

/-- The parameters that a call may leave out, with the values they then take. -/
def optional : Operation → List (String × Value)
  | createDraft =>
    [("description", .null), ("time_limit_minutes", .null), ("shuffle_questions", .bool false),
      ("shuffle_answers", .bool false), ("start_at", .null), ("end_at", .null)]
  | publish => [("start_at", .null), ("end_at", .null)]
  | startAttempt => [("now", .null)]
  | submitAttempt => [("answers", .null), ("now", .null), ("timeout", .null)]
  | addItem =>
    [("weight", .null), ("is_required", .bool true), ("sort_order", .null),
      ("expected_version", .null)]
  | upsertScores | reject => [("expected_version", .null)]
  | requestApproval | approve => [("message", .null), ("expected_version", .null)]
  | postScore => [("actor_id", .null), ("role", .null), ("reason", .null), ("timeout", .null)]
  | _ => []

def questionRequest (arg : String → Value) : QuestionRequest where
  text := arg "text"
  kind := arg "question_type"
  points := arg "points"
  options := arg "answers"

def draftRequest (arg : String → Value) : DraftRequest where
  classSection := arg "class_section_id"
  title := arg "title"
  total := arg "total_questions"
  description := arg "description"
  timeLimit := arg "time_limit_minutes"
  shuffleQuestions := arg "shuffle_questions"
  shuffleOptions := arg "shuffle_answers"
  startAt := arg "start_at"
  endAt := arg "end_at"

def itemRequest (arg : String → Value) : ItemRequest where
  classSection := arg "class_section_id"
  name := arg "name"
  maxScore := arg "max_score"
  weight := arg "weight"
  required := arg "is_required"
  order := arg "sort_order"
  expectedVersion := arg "expected_version"

/-- The call of an operation by a caller with its parameters. -/
def call (op : Operation) (caller : Caller) (arg : String → Value) : Call :=
  match op with
  | createDraft => .createDraft caller (draftRequest arg)
  | addQuestion => .addQuestion caller (arg "quiz_id") (questionRequest arg)
  | updateQuestion => .updateQuestion caller (arg "question_id") (questionRequest arg)
  | deleteQuestion => .deleteQuestion caller (arg "question_id")
  | deleteQuiz => .deleteQuiz caller (arg "quiz_id")
  | getQuestions => .getQuestions caller (arg "quiz_id")
  | listForTeacher => .listForTeacher caller
  | listPublished => .listPublished caller (arg "class_section_id")
  | publish => .publish caller (arg "quiz_id") (arg "start_at") (arg "end_at")
  | close => .close caller (arg "quiz_id")
  | startAttempt => .startAttempt caller (arg "quiz_id") (arg "now")
  | viewAttempt => .viewAttempt caller (arg "attempt_id")
  | submitAttempt =>
    .submitAttempt caller (arg "attempt_id") (arg "answers") (arg "now") (arg "timeout")
  | openBook => .openBook (arg "class_section_id")
  | viewBook => .viewBook caller (arg "class_section_id")
  | addItem => .addItem caller (itemRequest arg)
  | upsertScores =>
    .upsertScores caller
      ⟨arg "class_section_id", arg "score_cells", arg "expected_version"⟩
  | requestApproval =>
    .requestApproval caller (arg "class_section_id") (arg "message") (arg "expected_version")
  | approve =>
    .decide .approve caller (arg "class_section_id") (arg "message") (arg "expected_version")
  | reject =>
    .decide .reject caller (arg "class_section_id") (arg "message") (arg "expected_version")
  | postScore =>
    .postScore ⟨arg "attempt_id", caller, arg "reason", arg "timeout"⟩

end Operation

abbrev Arguments := List (String × Value)

namespace Arguments

/-- Reads arguments against the parameters of an operation: none that is required is missing, and none
is unknown. -/
def bind (required : List String) (optional : Arguments) (args : Arguments) :
    Except Defect (String → Value) :=
  let names := required ++ optional.map (·.1)
  if !args.all (fun a => names.contains a.1) then .error .wrongKind
  else if !required.all (fun n => args.any (·.1 == n)) then .error .wrongKind
  else .ok fun n => ((KeyedList.get? n args).orElse fun _ => KeyedList.get? n optional).getD .null

end Arguments

namespace Operation

def callerOf (op : Operation) (arg : String → Value) : Caller :=
  ⟨arg op.callerName, Role.textOf (arg "role")⟩

/-- Answers an operation called with named arguments. Arguments that do not fit its parameters are
answered like any other defect of a call. -/
def answer (op : Operation) (ctx : Context) (args : Arguments) (s : Session) :
    Option Outcome × Session :=
  match Arguments.bind op.required op.optional args with
  | .error _ => (some (.failure Failure.unexpected), s)
  | .ok arg => (op.call (op.callerOf arg) arg).answer ctx s

end Operation

end Assessment
