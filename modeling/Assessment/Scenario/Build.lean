import Assessment.Call.Operation

/-!
# Building a quiz

A whole quiz in one step: drafted, filled with questions, and published.
-/

namespace Assessment.Scenario

/-- What a quiz is built from. -/
structure QuizPlan where
  teacher : Value
  classSection : Value
  title : Value
  total : Value
  /-- Further arguments of the draft. -/
  draft : Arguments
  questions : Nat
  /-- The points of the questions, over and over again. -/
  points : List Value
  /-- How many options every question has. -/
  options : Nat
  /-- The place of the correct option, counted from zero. -/
  correct : Int
  publishes : Bool

namespace QuizPlan

def caller (p : QuizPlan) : Arguments := [("teacher_id", p.teacher), ("role", .text "TEACHER")]

def draftArguments (p : QuizPlan) : Arguments :=
  p.caller ++ [("class_section_id", p.classSection), ("title", p.title),
    ("total_questions", p.total)] ++ p.draft

def option (p : QuizPlan) (i : Nat) : Value :=
  .object [("text", .text ("Option " ++ toString (i + 1))),
    ("is_correct", .bool ((i : Int) == p.correct))]

/-- The arguments of a question by its place. -/
def questionArguments (p : QuizPlan) (quiz : Value) (i : Nat) : Arguments :=
  p.caller ++ [("quiz_id", quiz), ("text", .text ("Question " ++ toString (i + 1))),
    ("question_type", .text "MCQ"), ("points", p.points.getD (i % p.points.length) (.int 1)),
    ("answers", .list ((List.range p.options).map p.option))]

def calls (p : QuizPlan) (quiz : Value) : List (Operation × Arguments) :=
  (List.range p.questions).map (fun i => (.addQuestion, p.questionArguments quiz i)) ++
    if p.publishes then [(.publish, p.caller ++ [("quiz_id", quiz)])] else []

end QuizPlan

/-- Makes calls one after the other, up to the first that does not succeed, and answers with the last
outcome. -/
def answerAll (ctx : Context) (last : Outcome) :
    List (Operation × Arguments) → Session → Option Outcome × Session
  | [], s => (some last, s)
  | (op, args) :: rest, s =>
    match op.answer ctx args s with
    | (some (.success data), s) => answerAll ctx (.success data) rest s
    | r => r

def buildQuiz (ctx : Context) (p : QuizPlan) (s : Session) : Option Outcome × Session :=
  match Operation.createDraft.answer ctx p.draftArguments s with
  | (some (.success data), s) =>
    answerAll ctx (.success data) (p.calls (data.memberOrNull "quiz_id")) s
  | r => r

end Assessment.Scenario
