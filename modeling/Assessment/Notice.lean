import Assessment.Failure
import Assessment.Value.Equality

/-!
# Notices

A notice is a failure whose code, message, status and details are given by others and may be of any
kind. Only a code that can be a key has a status.
-/

namespace Assessment

/-- The response status of a code; a code of no kind is an internal failure. -/
def statusOfCode (code : Value) : Except Defect Nat :=
  if !code.isKey then .error .wrongKind
  else
    match code with
    | .text s => .ok (((FailureKind.ofCode? s).map FailureKind.status).getD 500)
    | _ => .ok 500

/-- A failure in the words of others. -/
structure Notice where
  code : Value
  status : Value
  message : Value
  details : Value
  deriving DecidableEq, Repr

def Failure.notice (f : Failure) : Notice :=
  ⟨.text f.kind.code, .ofNat f.status, .text f.message, .object f.details⟩

namespace Notice

/-- What an empty value of details stands for: no details. -/
def detailsOr (v : Value) : Value := if v.truthy then v else .object []

/-- A notice whose status is the given one, if it says something, and otherwise that of its code. -/
def withStatus (code status message details : Value) : Except Defect Notice := do
  let status ← if status.truthy then pure status else (statusOfCode code).map .ofNat
  return ⟨code, status, message, detailsOr details⟩

/-- The names of the parts of a notice of a kind. -/
def partNames (kind : FailureKind) : List String :=
  "message" :: kind.detailName?.toList ++ if kind = .notFound then ["code"] else []

/-- A part by name, or what stands for it. -/
def part (parts : List (String × Value)) (name : String) (default : Value) : Value :=
  ((Value.object parts).member? name).getD default

/-- The one detail of a kind, kept when it says something. -/
def detail (kind : FailureKind) (parts : List (String × Value)) : Value :=
  .object (((kind.detailName?.map fun name => (name, part parts name .null)).filter
    (·.2.truthy)).toList)

/-- A notice of a kind from named parts: a message, the one detail of the kind, and the code where the
kind has several. Other names are a defect. -/
def ofKind (kind : FailureKind) (parts : List (String × Value)) : Except Defect Notice :=
  if !parts.all (fun p => (partNames kind).contains p.1) then .error .wrongKind
  else withStatus (part parts "code" (.text kind.code)) .null
    (part parts "message" (.text kind.defaultMessage)) (detail kind parts)

/-- A notice from a message, which is required, and a code, a status and details. -/
def ofParts (parts : List (String × Value)) : Except Defect Notice :=
  match (Value.object parts).member? "message" with
  | none => .error .wrongKind
  | some message =>
    if !parts.all (fun p => ["message", "code", "status_code", "details"].contains p.1) then
      .error .wrongKind
    else withStatus (part parts "code" (.text FailureKind.internal.code))
      (part parts "status_code" .null) message (part parts "details" .null)

/-- The notice as a response body that always shows the details. -/
def fullReport (n : Notice) : Value :=
  .object [("success", .bool false), ("message", n.message), ("code", n.code),
    ("details", n.details.plain)]

/-- The notice as a response body that leaves out empty details. -/
def report (n : Notice) : Value :=
  .object ([("success", .bool false), ("code", n.code), ("message", n.message)] ++
    if n.details.truthy then [("details", n.details.plain)] else [])

end Notice

end Assessment
