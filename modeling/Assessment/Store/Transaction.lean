import Assessment.Refusal
import Assessment.Request
import Assessment.Signal
import Assessment.Store.Basic

/-!
# Transactions

A transaction reads the store and decides: it fails, it answers without writing, or it writes. A
writer works on the store as it is at the moment of writing, which another writer may have changed
since the decision. A transaction that fails leaves the store as it finds it; that is how `commit` is
made, so no operation has to undo anything.
-/

namespace Assessment

open Assessment.Access

/-- Why the store does not take a change. -/
inductive Violation where
  /-- A reference to a row that does not exist, a missing value, or a second row where one is
  allowed. -/
  | constraint
  /-- The row has changed since it was read. -/
  | stale
  /-- A value that the store cannot hold. -/
  | unfit (defect : Defect)
  deriving DecidableEq, Repr

/-- A change of the store that yields something. -/
abbrev Change (α : Type) := Store → Except Violation (α × Store)

/-- What a transaction decides after reading. -/
inductive Decision (α : Type) where
  | keep (answer : α)
  | write (change : Store → Except Fault (α × Store))

/-- A transaction: reading, then a decision. -/
abbrev Transaction (α : Type) := Store → Except Fault (Decision α)

/-- A violation as the conflict that is reported for it; values that the store cannot hold are a
defect. -/
def Violation.fault (conflict : Refusal) : Violation → Fault
  | constraint | stale => .refused conflict
  | unfit defect => .crashed defect

/-- A decision to write, whose violations are reported as a conflict. -/
def Decision.change {α : Type} (conflict : Refusal) (c : Change α) : Decision α :=
  .write fun s => (c s).mapError (Violation.fault conflict)

def requireStorable (numbers : List Int) : Except Violation Unit :=
  if numbers.all isStorable then .ok () else .error (.unfit .outOfRange)

def requireEncoding (texts : List String) : Except Violation Unit :=
  if texts.all Text.hasEncoding then .ok () else .error (.unfit .noEncoding)

/-- The row that a query by number finds. -/
def Probe.find? {α : Type} [Row α] (p : Probe) (rows : List α) : Option α :=
  rows.find? fun r => p.findsWhole (Row.id r)

/-- What a column of numbers holds for a value. -/
def columnOf (v : Value) : Except Violation (Option Cell) := v.numericCell?.mapError .unfit

def requireRow {α : Type} [Row α] (id : Int) (rows : List α) : Except Violation Unit :=
  if Table.has id rows then .ok () else .error .constraint

/-- The row that a column refers to, if it refers to one. -/
def reference {α : Type} [Row α] (column : Option Cell) (rows : List α) :
    Except Violation (Option Int) :=
  match column with
  | none => .ok none
  | some (.whole n) => if Table.has n rows then .ok (some n) else .error .constraint
  | some _ => .error .constraint

/-- The row that a column refers to, which must not be empty. -/
def requiredReference {α : Type} [Row α] (column : Option Cell) (rows : List α) :
    Except Violation Int := do
  match ← reference column rows with
  | some n => return n
  | none => throw .constraint

/-- The row with a number. Tables do not work on numbers of more than 64 bits. -/
def readRow? {α : Type} [Row α] (id : Int) (rows : List α) : Except Fault (Option α) :=
  if isStorable id then .ok (Table.find? id rows) else .error (.crashed .outOfRange)

def queryWith (numbers : List Int) : Except Fault Unit :=
  if numbers.all isStorable then .ok () else .error (.crashed .outOfRange)

/-- What operations work on: the store, the changes that other writers are about to make, one before
each write, and the signals sent so far. -/
structure Session where
  store : Store
  rivals : List (Store → Store)
  sent : List Signal

/-- An operation on a session. It may fail after some of its transactions have been committed. -/
abbrev Action := ExceptT Fault (StateM Session)

namespace Session

/-- A session without other writers. -/
def ofStore (s : Store) : Session := ⟨s, [], []⟩

/-- The session after the next other writer has made its change. -/
def yield (s : Session) : Session :=
  match s.rivals with
  | [] => s
  | rival :: rest => { s with store := rival s.store, rivals := rest }

end Session

namespace Action

def commit {α : Type} (t : Transaction α) : Action α := fun (s : Session) =>
  match t s.store with
  | .error fault => (.error fault, s)
  | .ok (.keep answer) => (.ok answer, s)
  | .ok (.write change) =>
    let s := s.yield
    match change s.store with
    | .error fault => (.error fault, s)
    | .ok (answer, store) => (.ok answer, { s with store })

def read {α : Type} (r : Store → Except Fault α) : Action α := fun (s : Session) => (r s.store, s)

def send (signal : Signal) : Action Unit := fun (s : Session) =>
  (.ok (), { s with sent := s.sent ++ [signal] })

/-- Runs an action for its effects alone; its failure is not passed on. -/
def attempt (a : Action Unit) : Action Unit := fun (s : Session) =>
  match a s with
  | (_, s) => (.ok (), s)

/-- Runs an action and yields its failure as a value. -/
def outcome {α : Type} (a : Action α) : Action (Except Fault α) := fun (s : Session) =>
  match a s with
  | (r, s) => (.ok r, s)

end Action

end Assessment
