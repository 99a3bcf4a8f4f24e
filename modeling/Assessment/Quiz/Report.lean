import Assessment.Attempting
import Assessment.Quiz.Listing

/-!
# What responses say of quizzes and attempts
-/

namespace Assessment.Quiz

open Assessment.Attempting

def members (s : Store) (q : Quiz) : List (String × Value) :=
  [("quiz_id", .int q.id), ("class_section_id", .int q.classSection), ("title", .text q.title),
    ("description", .ofText? q.description), ("total_questions", .int q.total),
    ("question_count", .ofNat (s.questionsOf q.id).length),
    ("time_limit_minutes", Cell.value? q.timeLimit),
    ("shuffle_questions", .bool q.shuffleQuestions), ("shuffle_answers", .bool q.shuffleOptions),
    ("start_at", .ofInstant? q.startAt), ("end_at", .ofInstant? q.endAt),
    ("status", .text q.status.name), ("created_at", .ofInstant q.createdAt)]

def report (s : Store) (q : Quiz) : Value := .object (members s q)

def optionReport (o : AnswerOption) : Value :=
  .object [("answer_id", .int o.id), ("text", .text o.text), ("is_correct", .bool o.correct)]

def questionReport (d : QuestionDetail) : Value :=
  .object [("question_id", .int d.question.id), ("text", .text d.question.text),
    ("question_type", .text d.question.kind.name),
    ("points", .decimal d.question.points.toDecimal), ("sort_order", d.question.order.value),
    ("answers", .list (d.options.map optionReport))]

def detailReport (s : Store) (q : Quiz) (questions : List QuestionDetail) : Value :=
  .object [("quiz", report s q), ("questions", .list (questions.map questionReport))]

def QuestionAdded.report (q : QuestionAdded) : Value :=
  .object [("question_id", .int q.question), ("question_count", .ofNat q.count),
    ("required_count", .int q.total)]

/-- A quiz that is open to a student. -/
def openReport (s : Store) (o : OpenQuiz) : Value :=
  .object (members s o.quiz ++
    [("attempt_id", .ofInt? (o.attempt.map (·.id))),
      ("attempt_status", .ofText? (o.attempt.map (·.status.name)))])

def shownOptionReport (o : ShownOption) : Value :=
  .object [("answer_id", .int o.id), ("text", .text o.text)]

def shownQuestionReport (q : ShownQuestion) : Value :=
  .object [("question_id", .int q.id), ("text", .text q.text), ("question_type", .text q.kind.name),
    ("points", .decimal q.points.toDecimal), ("answers", .list (q.options.map shownOptionReport))]

def viewReport (v : AttemptView) : Value :=
  .object [("attempt_id", .int v.attempt), ("quiz_id", .int v.quiz), ("title", .text v.title),
    ("status", .text v.status.name), ("started_at", .ofInstant v.startedAt),
    ("end_time", .ofInstant? v.endTime),
    ("questions", .list (v.questions.map shownQuestionReport))]

def submissionReport (r : SubmissionResult) : Value :=
  .object [("attempt_id", .int r.attempt), ("quiz_id", .int r.quiz), ("score", .decimal r.score),
    ("max_score", .decimal r.maxScore), ("correct_count", .ofNat r.correctCount),
    ("total_count", .ofNat r.totalCount), ("late", .bool r.late),
    ("submitted_at", .ofInstant r.submittedAt)]

/-- What other parts of the program may know of an attempt. -/
def snapshotReport (a : Attempt) : Value :=
  .object [("attempt_id", .int a.id), ("quiz_id", .int a.quiz), ("student_id", .int a.student),
    ("enrollment_id", .int a.enrollment), ("class_section_id", .int a.classSection),
    ("status", .text a.status.name), ("score", .ofDecimal? (a.score.map Amount.toDecimal)),
    ("max_score", .ofDecimal? (a.maxScore.map Amount.toDecimal)),
    ("submitted_at", .ofInstant? a.submittedAt)]

def Breakdown.report (b : Breakdown) : Value :=
  .object [("score", .decimal b.score), ("max_score", .decimal b.maxScore),
    ("correct_count", .ofNat b.correctCount), ("total_count", .ofNat b.totalCount),
    ("graded", .list (b.graded.map fun g =>
      .object [("question_id", .int g.question), ("selected_answer_id", .ofInt? g.selected),
        ("is_correct", .bool g.correct)]))]

end Assessment.Quiz
