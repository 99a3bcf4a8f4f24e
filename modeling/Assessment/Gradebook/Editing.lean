import Assessment.Access.Permission
import Assessment.Context
import Assessment.Gradebook.Entry
import Assessment.Text.UpperCase

/-!
# Editing gradebooks

A section's gradebook is opened when it is first needed. Its teacher adds items and enters scores while
the book is a draft or rejected; a batch of scores is entered as a whole or not at all.
-/

namespace Assessment.Gradebook

open Assessment.Access Assessment.Number Assessment.Request Assessment.Time

/-- The gradebook of a section, opened if there is none. When another writer opens it first, theirs is
used. -/
def openBook (ctx : Context) (classSection : Int) : Transaction GradeBook := fun s => do
  queryWith [classSection]
  match s.bookOf? classSection with
  | some b => return .keep b
  | none =>
    return .write fun s =>
      match insertBook classSection ctx.now s with
      | .ok r => .ok r
      | .error (.unfit defect) => .error (.crashed defect)
      | .error _ =>
        match s.bookOf? classSection with
        | some b => .ok (b, s)
        | none => .error (.refused .gradebookUnopenable)

def getOrCreate (ctx : Context) (classSection : Value) : Transaction GradeBook := fun s => do
  let id ← readPositive "Class section id" classSection
  openBook ctx id s

/-- The gradebook of a section that has one. -/
def existingBook (classSection : Int) (s : Store) : Except Fault GradeBook := do
  queryWith [classSection]
  match s.bookOf? classSection with
  | some b => return b
  | none => throw (.refused .gradebookMissing)

/-- The version that the caller has seen, if one is given, is the present one. -/
def checkVersion (book : GradeBook) (expected : Value) : Except Fault Unit := do
  if !expected.isNull then
    if (← readPositive "Expected version" expected) ≠ book.version then
      throw (.refused .gradebookChanged)

def requireEditable (book : GradeBook) : Except Fault Unit :=
  if book.status.isEditable then .ok () else .error (.refused .gradebookNotEditable)

/-- A grade item as a teacher asks for it. -/
structure ItemRequest where
  classSection : Value
  name : Value
  maxScore : Value
  weight : Value
  required : Value
  order : Value
  expectedVersion : Value

/-- A grade item that has passed the checks that need no book. -/
structure CheckedItem where
  classSection : Int
  name : String
  maxScore : Decimal
  weight : Option Decimal
  deriving DecidableEq, Repr

/-- A name is present and not too long. -/
def checkName (v : Value) : Except Fault String := do
  let name ← readTrimmed v
  if name.isEmpty then throw (.refused .itemNameMissing)
  if maxNameLength < name.length then throw (.refused .itemNameTooLong)
  return name

/-- A maximum is present and greater than zero. -/
def checkMaxScore (v : Value) : Except Fault Decimal := do
  match ← readScore? "Max score" v with
  | none => throw (.refused .maxScoreNotPositive)
  | some d =>
    if ← (d.atMost .zero : Except Defect Bool) then throw (.refused .maxScoreNotPositive)
    return d

/-- A weight, if one is given, is between zero and one. -/
def checkWeight (v : Value) : Except Fault (Option Decimal) := do
  if v.isNull then return none
  match Decimal.read? v.display with
  | none => throw (.refused (.notANumber "Weight"))
  | some d =>
    if !d.isFinite then throw (.refused .weightOutOfRange)
    if ← (d.less .zero : Except Defect Bool) then throw (.refused .weightOutOfRange)
    if ← ((Decimal.ofInt 1).less d : Except Defect Bool) then throw (.refused .weightOutOfRange)
    return some d

/-- Checks what does not depend on the book. -/
def checkItem (ctx : Context) (caller : Caller) (r : ItemRequest) (s : Store) :
    Except Fault CheckedItem := do
  let classSection ← readPositive "Class section id" r.classSection
  requireSectionTeacher (ctx.directory s) caller (.int classSection)
  let name ← checkName r.name
  let maxScore ← checkMaxScore r.maxScore
  let weight ← checkWeight r.weight
  return ⟨classSection, name, maxScore, weight⟩

/-- A name in the form in which names are compared. -/
def nameKey (name : String) : String := Text.upper (Text.trim name)

/-- The place of a new item: the given one, or the one after the items so far. -/
def orderOf (v : Value) (count : Nat) : Except Violation (Option Cell) :=
  if v.isNull then .ok (some (.whole (count + 1 : Nat))) else columnOf v

def itemRow (book : Int) (item : CheckedItem) (required : Bool) (now : Instant)
    (order : Cell) (id : Int) : GradeItem where
  id
  book
  name := item.name
  maxScore := (Amount.ofDecimal? item.maxScore).getD .zero
  weight := item.weight.bind Amount.ofDecimal?
  required
  order
  createdAt := now

/-- Adds an item with a name at a place. An item without a place is not taken. -/
def insertItem (make : Cell → Int → GradeItem) (name : String)
    (order : Except Violation (Option Cell)) : Change GradeItem := fun s => do
  requireEncoding [name]
  match ← order with
  | none => throw .constraint
  | some order =>
    let row := make order (Table.nextId s.items)
    return (row, { s with items := s.items ++ [row] })

/-- An item that was added, and the version that it made. -/
structure ItemAdded where
  item : GradeItem
  version : Int
  deriving DecidableEq, Repr

/-- Adds a checked item to the section's book. -/
def enterItem (ctx : Context) (item : CheckedItem) (r : ItemRequest) :
    Transaction ItemAdded := fun s => do
  let book ← existingBook item.classSection s
  requireEditable book
  checkVersion book r.expectedVersion
  let items := s.itemsOf book.id
  if items.any fun i => nameKey i.name == Text.upper item.name then
    throw (.refused .itemNameTaken)
  let order := orderOf r.order items.length
  let conflict := Violation.fault .gradebookChanged
  return .write fun s => do
    let (_, s) ← (changeBook book (touched ctx.now) s).mapError conflict
    let make := itemRow book.id item r.required.truthy ctx.now
    let (row, s) ← (insertItem make item.name order s).mapError conflict
    return (⟨row, book.version + 1⟩, s)

/-- Adds an item, and opens the book first if there is none. -/
def addItem (ctx : Context) (caller : Caller) (r : ItemRequest) : Action ItemAdded := do
  let item ← Action.read (checkItem ctx caller r)
  let _ ← Action.commit (openBook ctx item.classSection)
  Action.commit (enterItem ctx item r)

/-- A cell of a batch as it is checked. -/
structure ScoreCell where
  item : GradeItem
  enrollment : Int
  score : Option Decimal
  reason : String
  deriving DecidableEq, Repr

/-- Where a cell is: its item and its enrollment. -/
def ScoreCell.place (c : ScoreCell) : Int × Int := (c.item.id, c.enrollment)

def readCellNumber (v : Value) : Except Fault Int := do
  match ← tryInteger v with
  | some n => return n
  | none => throw (.refused .cellUnreadable)

/-- A score that an item admits: none, or one from zero to the maximum. -/
def checkScore (item : GradeItem) (v : Value) : Except Fault (Option Decimal) := do
  match ← readScore? "Score" v with
  | none => return none
  | some d =>
    let maximum := item.maxScore.toDecimal
    if (← (d.less .zero : Except Defect Bool)) || (← (maximum.less d : Except Defect Bool)) then
      throw (.refused (.scoreOutOfRange item.name maximum))
    return some d

/-- The reason of a change: the given one, or the one for edits by hand. -/
def reasonOr (v : Value) (standard : String) : Except Fault String := do
  let reason ← readTrimmed v
  return if reason.isEmpty then standard else reason

/-- Checks one cell against the book's items, the section's enrollments and the cells before it. -/
def checkCell (items : List GradeItem) (enrollments : List Value) (before : List ScoreCell)
    (v : Value) : Except Fault ScoreCell := do
  let itemId ← readCellNumber (v.memberOrNull "grade_item_id")
  let enrollment ← readCellNumber (v.memberOrNull "enrollment_id")
  match Table.find? itemId items with
  | none => throw (.refused (.itemForeign itemId))
  | some item =>
    if !(Value.int enrollment).isAmong enrollments then throw (.refused (.enrollmentForeign enrollment))
    if before.any fun c => c.place == (itemId, enrollment) then throw (.refused .cellRepeated)
    let score ← checkScore item (v.memberOrNull "score")
    let reason ← reasonOr (v.memberOrNull "reason") manualReason
    return ⟨item, enrollment, score, reason⟩

/-- Checks the cells of a batch one after the other. -/
def checkCells (items : List GradeItem) (enrollments : List Value) :
    List ScoreCell → List Value → Except Fault (List ScoreCell)
  | before, [] => .ok before
  | before, v :: rest => do
    let cell ← checkCell items enrollments before v
    checkCells items enrollments (before ++ [cell]) rest

def ScoreCell.change (actor : Value) (c : ScoreCell) : ScoreChange :=
  ⟨c.item.id, c.enrollment, c.score, actor, c.reason⟩

/-- A change of a batch, and whether a further cell follows it. -/
structure BatchChange where
  change : ScoreChange
  followed : Bool
  deriving DecidableEq, Repr

/-- The changes that a batch of cells makes. -/
def batchChanges (s : Store) (actor : Value) : List ScoreCell → Except Defect (List BatchChange)
  | [] => .ok []
  | c :: rest => do
    let change := c.change actor
    let changes ← change.changes (s.entryOf? change.item change.enrollment)
    let others ← batchChanges s actor rest
    return if changes then ⟨change, !rest.isEmpty⟩ :: others else others

/-- Enters the changes of a batch. A violation shows when the next cell is read, where it is a
defect, or at the end, where it is a conflict. -/
def applyBatch (now : Instant) : List BatchChange → Store → Except Fault Store
  | [], s => .ok s
  | c :: rest, s =>
    match applyScore c.change now s with
    | .ok (_, s) => applyBatch now rest s
    | .error (.unfit defect) => .error (.crashed defect)
    | .error _ => .error (if c.followed then .crashed .broken else .refused .gradebookChanged)

/-- What a batch of scores did: the number of scores that changed, and the version. -/
structure BatchResult where
  updated : Nat
  version : Int
  deriving DecidableEq, Repr

/-- A batch of scores as a teacher sends it. -/
structure BatchRequest where
  classSection : Value
  cells : Value
  expectedVersion : Value

def upsertScores (ctx : Context) (caller : Caller) (r : BatchRequest) :
    Transaction BatchResult := fun s => do
  let classSection ← readPositive "Class section id" r.classSection
  requireSectionTeacher (ctx.directory s) caller (.int classSection)
  let book ← existingBook classSection s
  requireEditable book
  let cells ← readItems r.cells
  if cells.isEmpty then throw (.refused .scoresMissing)
  let enrollments ← ((ctx.directory s).enrollments (.int classSection) : Except Defect _)
  if !enrollments.all Value.isKey then throw (.crashed .wrongKind)
  let cells ← checkCells (s.itemsOf book.id) enrollments [] cells
  checkVersion book r.expectedVersion
  let changes ← (batchChanges s caller.id cells : Except Defect _)
  if changes.isEmpty then return .keep ⟨0, book.version⟩
  return .write fun s => do
    let s ← applyBatch ctx.now changes s
    let (_, s) ← (changeBook book (touched ctx.now) s).mapError (Violation.fault .gradebookChanged)
    return (⟨changes.length, book.version + 1⟩, s)

end Assessment.Gradebook
