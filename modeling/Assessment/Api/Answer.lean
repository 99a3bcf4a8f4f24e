import Assessment.Api.Route
import Assessment.Json.Encoding

/-!
# Answering requests

A request is answered in this order: a path that stands for nothing, a method that is not allowed, a
caller who is not known, a body that does not fit, and then the outcome of the operation.
-/

namespace Assessment.Api

open Assessment.Access Assessment.Schema

inductive Login where
  | anonymous
  /-- A user by number. -/
  | account (id : Int)
  /-- A login that cannot be read. -/
  | unreadable
  deriving DecidableEq, Repr

structure Request where
  login : Login
  method : String
  target : String
  contentType : Option String
  body : Option String

/-- A response; a body that is not JSON is not shown. -/
structure Response where
  status : Nat
  body : Value
  deriving Repr

namespace Response

def bare (status : Nat) : Response := ⟨status, .null⟩

/-- A response whose body says what is wrong. -/
def ofProblem (status : Nat) (kind : FailureKind) (message : String)
    (details : List (String × Value)) : Response :=
  ⟨status, (Failure.mk kind message details).report⟩

/-- The response to a caller who is not known. -/
def unauthenticated : Response :=
  ofProblem 401 .unauthenticated FailureKind.unauthenticated.defaultMessage []

/-- The response to a request that nobody foresaw. -/
def internal : Response := ofProblem 500 .internal "Internal server error" []

/-- The response to a body with problems. -/
def unfit (p : Problems) : Response :=
  ofProblem 400 .invalidInput "Invalid request payload." [("errors", p.value)]

/-- Only the API answers failures of routing in JSON. -/
def ofRouting (path : List Char) (response : Response) : Response :=
  if beginsWith "/api/" path then response else bare response.status

/-- The response for a path that stands for nothing. -/
def nothing (path : List Char) : Response :=
  ofRouting path (ofProblem 404 .notFound "Endpoint not found" [])

/-- The response for a method that is not allowed. -/
def methodNotAllowed (path : List Char) : Response :=
  ofRouting path (ofProblem 405 .invalidInput "Method not allowed" [])

/-- The response to the outcome of an operation. -/
def ofOutcome (creates : Bool) (o : Outcome) : Response :=
  ⟨if creates && o.isSuccess then 201 else o.status, o.report⟩

end Response

/-- Does a content type say JSON? Its parameters do not matter. -/
def isJson (contentType : String) : Bool :=
  let name := (Text.lowerLatin (Text.trim (String.ofList
    (contentType.toList.takeWhile (· != ';'))))).toList
  name = "application/json".toList ||
    ("application/".toList.isPrefixOf name && "+json".toList.isSuffixOf name)

/-- The body of a request. What is missing, is not JSON or is empty counts as an object without
members, and only what nests too deep is not read. -/
def readBody (nesting : Nat) (r : Request) : Except Json.Misread Value :=
  if r.contentType.any isJson then
    match r.body.map fun body => Json.readBytes nesting body.toUTF8.toList with
    | some (.ok v) => .ok (if v.truthy then v else .object [])
    | some (.error .tooDeep) => .error .tooDeep
    | _ => .ok (.object [])
  else .ok (.object [])

/-- The user of a login who may call operations; none is anonymous. -/
def callerOf (login : Login) (s : Store) : Except Defect (Option Caller) :=
  match login with
  | .anonymous => .ok none
  | .unreadable => .error .unreadable
  | .account id =>
    if !isStorable id then .error .outOfRange
    else .ok (((Table.find? id s.users).filter (·.enabled)).map fun u => ⟨.int u.id, u.role⟩)

/-- The name that an operation's parameter has in a body. -/
def memberName (parameter : String) : String :=
  if parameter = "score_cells" then "scores" else parameter

/-- The parameters of an operation: numbers of the path, and members of the body. -/
def parameters (numbers : Arguments) (body : Value) (name : String) : Value :=
  (KeyedList.get? name numbers).getD (body.memberOrNull (memberName name))

/-- What an endpoint takes of the body of a request, or the response if it cannot. A body that is not
read was not foreseen. -/
def Endpoint.load (e : Endpoint) (nesting : Nat) (r : Request) : Except Response Value :=
  match e.body? with
  | none => .ok .null
  | some b =>
    match readBody nesting r with
    | .error _ => .error .internal
    | .ok v => (b.load v).mapError .unfit

def callEndpoint (ctx : Context) (e : Endpoint) (numbers : Arguments) (r : Request)
    (caller : Caller) (s : Session) : Response × Session :=
  match e.load ctx.nesting r with
  | .error response => (response, s)
  | .ok body =>
    match (e.operation.call caller (parameters numbers body)).answer ctx s with
    | (some o, s) => (.ofOutcome e.creates o, s)
    | (none, s) => (.internal, s)

def atEndpoint (ctx : Context) (e : Endpoint) (numbers : Arguments) (r : Request) (s : Session) :
    Response × Session :=
  match callerOf r.login s.store with
  | .error _ => (.internal, s)
  | .ok none => (.unauthenticated, s)
  | .ok (some caller) => callEndpoint ctx e numbers r caller s

def atPath (ctx : Context) (path : List Char) (r : Request) (s : Session) : Response × Session :=
  let method := Method.ofName r.method
  match destination method path with
  | .endpoint e numbers =>
    let (response, s) := atEndpoint ctx e numbers r s
    (if method = .head then .bare response.status else response, s)
  | .methods => (.bare 200, s)
  | .file => (.nothing path, s)
  | .redirect => (.bare 308, s)
  | .methodNotAllowed => (.methodNotAllowed path, s)
  | .nothing => (.nothing path, s)

/-- Answers a request. A request that cannot be sent is a defect, and a login counts for its own host
only. -/
def answer (ctx : Context) (r : Request) (s : Session) : Except Defect Response × Session :=
  match Target.ofText r.target with
  | .error d => (.error d, s)
  | .ok target =>
    if !r.body.all Text.hasEncoding then (.error .noEncoding, s)
    else
      let r := if target.isOwn then r else { r with login := .anonymous }
      let (response, s) := atPath ctx target.path r s
      (.ok response, s)

end Assessment.Api
