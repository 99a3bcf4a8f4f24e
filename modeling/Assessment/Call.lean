import Assessment.Gradebook.Report
import Assessment.Outcome
import Assessment.Quiz.Lifecycle
import Assessment.Quiz.Report
import Assessment.Sync.Report

/-!
# Calls

All operations that the school's users and the program itself call, as one type. A call is answered
with an outcome: what the operation yields, or the failure of its fault.
-/

namespace Assessment

open Assessment.Access Assessment.Gradebook Assessment.Quiz Assessment.Sync

/-- A call of an operation. -/
inductive Call where
  | createDraft (caller : Caller) (r : DraftRequest)
  | addQuestion (caller : Caller) (quiz : Value) (r : QuestionRequest)
  | updateQuestion (caller : Caller) (question : Value) (r : QuestionRequest)
  | deleteQuestion (caller : Caller) (question : Value)
  | deleteQuiz (caller : Caller) (quiz : Value)
  | getQuestions (caller : Caller) (quiz : Value)
  | listForTeacher (caller : Caller)
  | listPublished (caller : Caller) (classSection : Value)
  | publish (caller : Caller) (quiz startAt endAt : Value)
  | close (caller : Caller) (quiz : Value)
  | startAttempt (caller : Caller) (quiz now : Value)
  | viewAttempt (caller : Caller) (attempt : Value)
  | submitAttempt (caller : Caller) (attempt answers now timeout : Value)
  | openBook (classSection : Value)
  | viewBook (caller : Caller) (classSection : Value)
  | addItem (caller : Caller) (r : ItemRequest)
  | upsertScores (caller : Caller) (r : BatchRequest)
  | requestApproval (caller : Caller) (classSection message expected : Value)
  | decide (verdict : Verdict) (caller : Caller) (classSection message expected : Value)
  | postScore (r : PostRequest)

namespace Call

/-- Reports a result in the store that the operation leaves. -/
def reported {α : Type} (a : Action α) (report : Store → α → Value) : Action (Option Value) := do
  let r ← a
  Action.read fun s => return some (report s r)

/-- Runs a call and yields its data. Posting a score without a single try yields none. -/
def run (ctx : Context) : Call → Action (Option Value)
  | createDraft caller r => reported (Action.commit (Quiz.createDraft ctx caller r)) Quiz.report
  | addQuestion caller quiz r =>
    reported (Action.commit (Quiz.addQuestion ctx caller quiz r)) fun _ => QuestionAdded.report
  | updateQuestion caller question r =>
    reported (Action.commit (Quiz.updateQuestion ctx caller question r)) fun _ id =>
      .object [("question_id", .int id)]
  | deleteQuestion caller question =>
    reported (Action.commit (Quiz.deleteQuestion ctx caller question)) fun _ r =>
      .object [("quiz_id", .int r.1), ("question_count", .ofNat r.2)]
  | deleteQuiz caller quiz =>
    reported (Action.commit (Quiz.deleteQuiz ctx caller quiz)) fun _ id =>
      .object [("quiz_id", .int id)]
  | getQuestions caller quiz =>
    reported (Action.read (questionsFor ctx caller quiz)) fun s r => detailReport s r.1 r.2
  | listForTeacher caller =>
    reported (Action.read (Quiz.listForTeacher ctx caller)) fun s qs =>
      .list (qs.map (Quiz.report s))
  | listPublished caller classSection =>
    reported (Action.read (Quiz.listPublished ctx caller classSection)) fun s qs =>
      .list (qs.map (openReport s))
  | publish caller quiz startAt endAt =>
    reported (Quiz.publish ctx caller quiz startAt endAt) Quiz.report
  | close caller quiz => reported (Action.commit (Quiz.close ctx caller quiz)) Quiz.report
  | startAttempt caller quiz now =>
    reported (Attempting.start ctx caller quiz now) fun _ => viewReport
  | viewAttempt caller attempt =>
    reported (Action.read (Attempting.view caller attempt)) fun _ => viewReport
  | submitAttempt caller attempt answers now timeout =>
    reported (Attempting.submit (onSubmitted ctx) ctx caller attempt answers now timeout) fun _ =>
      submissionReport
  | openBook classSection =>
    reported (Action.commit (getOrCreate ctx classSection)) fun _ => summary
  | viewBook caller classSection =>
    reported (Gradebook.detail ctx caller classSection) fun _ => BookDetail.report
  | addItem caller r => reported (Gradebook.addItem ctx caller r) fun _ => ItemAdded.report
  | upsertScores caller r =>
    reported (Action.commit (Gradebook.upsertScores ctx caller r)) fun _ => BatchResult.report
  | requestApproval caller classSection message expected =>
    reported (Gradebook.requestApproval ctx caller classSection message expected) fun _ =>
      Review.report
  | decide verdict caller classSection message expected =>
    reported (Gradebook.decide verdict ctx caller classSection message expected) fun _ =>
      Review.report
  | postScore r => do return (← post ctx r).map Posted.report

/-- Answers a call with its outcome, if it has one. -/
def answer (ctx : Context) (c : Call) (s : Session) : Option Outcome × Session :=
  match c.run ctx s with
  | (.ok data, s) => (data.map .success, s)
  | (.error fault, s) => (some (.failure fault.failure), s)

end Call

end Assessment
