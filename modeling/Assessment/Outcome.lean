import Assessment.Failure

/-!
# Outcomes

The outcome of a call: data, or a failure.
-/

namespace Assessment

inductive Outcome where
  | success (data : Value)
  | failure (failure : Failure)
  deriving DecidableEq, Repr

namespace Outcome

def isSuccess : Outcome → Bool
  | success _ => true
  | failure _ => false

/-- The response status: 200, or that of the failure. -/
def status : Outcome → Nat
  | success _ => 200
  | failure f => f.status

/-- The body of a response to a success; a message that says nothing is left out. -/
def successReport (data message : Value) : Value :=
  .object ([("success", .bool true), ("data", data.plain)] ++
    if message.truthy then [("message", message)] else [])

def report : Outcome → Value
  | success data => successReport data .null
  | failure f => f.report

/-- The body of a response to a success; absent data and a message that says nothing are left out. -/
def shortReport (data message : Value) : Value :=
  .object ([("success", .bool true)] ++ (if data.isNull then [] else [("data", data)]) ++
    if message.truthy then [("message", message)] else [])

end Outcome

end Assessment
