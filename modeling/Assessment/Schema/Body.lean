import Assessment.Schema.Field

/-!
# Loading request bodies

A body is an object. Its fields are read all at once, so that every problem is reported together with
the name of its field, and inside lists with the place of its item. Members that no field names are
dropped.
-/

namespace Assessment.Schema

/-- The problems of a body: messages, or the problems of its members. -/
inductive Problems where
  | messages (ms : List Message)
  | members (ps : List (String × Problems))

mutual

def Problems.value : Problems → Value
  | .messages ms => .list (ms.map fun m => .text m.text)
  | .members ps => .object (Problems.memberValues ps)

def Problems.memberValues : List (String × Problems) → List (String × Value)
  | [] => []
  | (name, p) :: rest => (name, p.value) :: Problems.memberValues rest

end

def Problems.single (m : Message) : Problems := .messages [m]

/-- A body that is no object. -/
def notAnObject : Problems := .members [("_schema", .single .notObject)]

/-- Members that were read, and those that have problems. -/
structure Reading where
  values : List (String × Value)
  problems : List (String × Problems)

/-- Nothing read yet. -/
def Reading.nothing : Reading := ⟨[], []⟩

def Reading.add (r : Reading) (name : String) : Except Problems Value → Reading
  | .ok v => { r with values := r.values ++ [(name, v)] }
  | .error p => { r with problems := r.problems ++ [(name, p)] }

def Reading.result (r : Reading) : Except Problems (List (String × Value)) :=
  if r.problems.isEmpty then .ok r.values else .error (.members r.problems)

abbrev Fields := List Field

def Fields.load (fields : Fields) (v : Value) : Except Problems Value :=
  match v with
  | .object _ =>
    (fields.foldl
      (fun r f => r.add f.name ((f.read (v.member? f.name)).mapError .single))
      Reading.nothing).result.map .object
  | _ => .error notAnObject

def readItem (fields : Fields) (v : Value) : Except Problems Value :=
  if v.isNull then .error (.single .empty) else fields.load v

/-- A list of flat objects under a name; absent, it takes its default, and without one it is
required. -/
structure ListField where
  name : String
  fields : Fields
  default? : Option Value

/-- Reads the items of a list, each under its place. -/
def readItems (fields : Fields) (items : List Value) : Except Problems Value :=
  (items.zipIdx.foldl
    (fun r (v, i) => r.add (toString i) (readItem fields v)) Reading.nothing).result.map
      fun members => .list (members.map (·.2))

/-- Reads the list of a field, if there is one. -/
def ListField.read (f : ListField) : Option Value → Except Problems Value
  | none =>
    match f.default? with
    | some v => .ok v
    | none => .error (.single .missing)
  | some .null => .error (.single .empty)
  | some (.list items) => readItems f.fields items
  | some _ => .error (.single .notList)

/-- What a request body holds: flat fields, and at most one list of flat objects. -/
structure Body where
  fields : Fields
  list? : Option ListField

/-- Reads the list of a body after its fields. -/
def Body.addList (b : Body) (v : Value) (r : Reading) : Reading :=
  match b.list? with
  | none => r
  | some f => r.add f.name (f.read (v.member? f.name))

def Body.load (b : Body) (v : Value) : Except Problems Value :=
  match v with
  | .object _ =>
    let flat := b.fields.foldl
      (fun r f => r.add f.name ((f.read (v.member? f.name)).mapError .single)) Reading.nothing
    (b.addList v flat).result.map .object
  | _ => .error notAnObject

end Assessment.Schema
