import Assessment.Api.Target
import Assessment.Call.Operation
import Assessment.Schema.Payload
import Assessment.Text.Digit

/-!
# Routes

Which operation a method and a path stand for, and what the request's body holds for it.
-/

namespace Assessment.Api

open Assessment.Schema Assessment.Text

/-- The methods that routes tell apart. -/
inductive Method where
  | get
  | post
  | put
  | delete
  /-- Asks for the status of what `get` answers. -/
  | head
  /-- Asks which methods there are. -/
  | options
  | other
  deriving DecidableEq, Repr

/-- The method of a name, in any case. -/
def Method.ofName (s : String) : Method :=
  match upper s with
  | "GET" => get
  | "POST" => post
  | "PUT" => put
  | "DELETE" => delete
  | "HEAD" => head
  | "OPTIONS" => options
  | _ => other

/-- A segment of a route's path: a fixed word, or a number that the operation takes under a name. -/
inductive Segment where
  | word (text : String)
  | number (name : String)
  deriving DecidableEq, Repr

/-- What a route does for a method: an operation, with a body if it reads one. -/
structure Endpoint where
  method : Method
  operation : Operation
  body? : Option Body
  /-- Does success create something? -/
  creates : Bool

/-- A route: a path below the API, and an endpoint for each method. -/
structure Route where
  path : List Segment
  endpoints : List Endpoint

def quizNumber : Segment := .number "quiz_id"

def questionNumber : Segment := .number "question_id"

def attemptNumber : Segment := .number "attempt_id"

def sectionNumber : Segment := .number "class_section_id"

def routes : List Route :=
  [⟨[.word "quizzes"],
      [⟨.post, .createDraft, some quizBody, true⟩, ⟨.get, .listForTeacher, none, false⟩]⟩,
    ⟨[.word "quizzes", .word "class", sectionNumber], [⟨.get, .listPublished, none, false⟩]⟩,
    ⟨[.word "quizzes", quizNumber], [⟨.delete, .deleteQuiz, none, false⟩]⟩,
    ⟨[.word "quizzes", quizNumber, .word "questions"],
      [⟨.get, .getQuestions, none, false⟩, ⟨.post, .addQuestion, some questionBody, true⟩]⟩,
    ⟨[.word "quizzes", .word "questions", questionNumber],
      [⟨.put, .updateQuestion, some questionBody, false⟩, ⟨.delete, .deleteQuestion, none, false⟩]⟩,
    ⟨[.word "quizzes", quizNumber, .word "publish"],
      [⟨.post, .publish, some publishBody, false⟩]⟩,
    ⟨[.word "quizzes", quizNumber, .word "close"], [⟨.post, .close, none, false⟩]⟩,
    ⟨[.word "attempts", .word "quiz", quizNumber, .word "start"],
      [⟨.post, .startAttempt, none, true⟩]⟩,
    ⟨[.word "attempts", attemptNumber], [⟨.get, .viewAttempt, none, false⟩]⟩,
    ⟨[.word "attempts", attemptNumber, .word "submit"],
      [⟨.post, .submitAttempt, some submissionBody, false⟩]⟩,
    ⟨[.word "gradebooks", sectionNumber], [⟨.get, .viewBook, none, false⟩]⟩,
    ⟨[.word "gradebooks", sectionNumber, .word "items"],
      [⟨.post, .addItem, some itemBody, true⟩]⟩,
    ⟨[.word "gradebooks", sectionNumber, .word "scores"],
      [⟨.put, .upsertScores, some scoresBody, false⟩]⟩,
    ⟨[.word "gradebooks", sectionNumber, .word "request-approval"],
      [⟨.post, .requestApproval, some reviewBody, false⟩]⟩,
    ⟨[.word "gradebooks", sectionNumber, .word "approve"],
      [⟨.post, .approve, some reviewBody, false⟩]⟩,
    ⟨[.word "gradebooks", sectionNumber, .word "reject"],
      [⟨.post, .reject, some reviewBody, false⟩]⟩,
    ⟨[.word "gradebooks", .word "sync", .word "attempts", attemptNumber],
      [⟨.post, .postScore, none, false⟩]⟩]

/-- A number in a path: decimal digits and nothing else. -/
def readNumber? (cs : List Char) : Option Int :=
  let digits := cs.map europeanDigit
  if !digits.isEmpty && digits.all isDigit then some (natOfDigits digits : Int) else none

/-- The numbers of a path that fits a route. -/
def fit? : List Segment → List (List Char) → Option Arguments
  | [], [] => some []
  | .word text :: route, s :: path => if s = text.toList then fit? route path else none
  | .number name :: route, s :: path => do
    let n ← readNumber? s
    let others ← fit? route path
    return (name, .int n) :: others
  | _, _ => none

/-- What a method and a path stand for. -/
inductive Destination where
  /-- An operation with the numbers of the path. -/
  | endpoint (e : Endpoint) (numbers : Arguments)
  /-- The list of methods of a route. -/
  | methods
  /-- A file, of which there are none. -/
  | file
  /-- The same path with single slashes. -/
  | redirect
  | methodNotAllowed
  | nothing

/-- The endpoint of a route for a method; a head is asked for where the resource can be got. -/
def Route.endpoint? (r : Route) (m : Method) : Option Endpoint :=
  r.endpoints.find? (·.method == if m = .head then .get else m)

/-- The route of a path and the numbers in it. -/
def route? (path : List Char) : Option (Route × Arguments) :=
  match segments path with
  | [] :: api :: rest =>
    if api = "api".toList then
      routes.findSome? fun r => (fit? r.path rest).map fun numbers => (r, numbers)
    else none
  | _ => none

def isFile (path : List Char) : Bool :=
  beginsWith "/static/" path && (path.drop 8).head?.any (· != '/')

/-- What a method and a path stand for, with the slashes as they are; nothing if no path fits. -/
def exactDestination? (m : Method) (path : List Char) : Option Destination :=
  match route? path with
  | some (r, numbers) =>
    match r.endpoint? m with
    | some e => some (.endpoint e numbers)
    | none => some (if m = .options then .methods else .methodNotAllowed)
  | none =>
    if isFile path then
      some (if m = .options then .methods
        else if m = .get ∨ m = .head then .file
        else .methodNotAllowed)
    else none

/-- What a method and a path stand for. A path that fits after double slashes are made one is
redirected there. -/
def destination (m : Method) (path : List Char) : Destination :=
  match exactDestination? m path with
  | some d => d
  | none =>
    match exactDestination? m (mergeSlashes path) with
    | none => .nothing
    | some .methodNotAllowed => .methodNotAllowed
    | some _ => .redirect

end Assessment.Api
