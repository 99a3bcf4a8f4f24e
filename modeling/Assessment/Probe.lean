import Assessment.Cell
import Assessment.Value.Equality

/-!
# Probes

A probe is what a query compares a column of numbers with. A query for the absent value finds the rows
without one; what is not a number finds no row.
-/

namespace Assessment

open Assessment.Number

/-- What a query compares a column with. -/
inductive Probe where
  | absent
  | nothing
  | cell (c : Cell)
  deriving DecidableEq, Repr

namespace Probe

/-- Does a query find what a column holds? -/
def finds (p : Probe) (column : Option Cell) : Bool :=
  match p with
  | absent => column.isNone
  | nothing => false
  | cell c => column == some c

def findsWhole (p : Probe) (n : Int) : Bool := p.finds (some (.whole n))

/-- A query for a cell, where no cell finds no row. -/
def ofCell? : Option Cell → Probe
  | some c => .cell c
  | none => .nothing

end Probe

namespace Value

/-- What a query for a value looks for, before a column makes something of it. Decimals are looked for
as doubles. -/
def sought : Value → Except Defect (Option Cell)
  | decimal (.nan _ true _) => .error .unfitForColumn
  | decimal d => (float (.ofDecimal d)).cell?
  | v => v.cell?

/-- The query for a value in a column of numbers. A time is never a number. -/
def probe : Value → Except Defect Probe
  | null => .ok .absent
  | moment _ | date _ => .ok .nothing
  | v => return .ofCell? ((← v.sought).map Cell.numeric)

/-- The query for a value in a column of texts. A time is not written there. -/
def writtenProbe : Value → Except Defect Probe
  | null => .ok .absent
  | moment _ => .ok .nothing
  | v => return .ofCell? ((← v.sought).map fun c => .text c.written)

/-- The query for the row of a key, of which one part is given by itself, in a list, or by the name of
the column. -/
def keyProbe (column : String) (v : Value) : Except Defect Probe :=
  let ofPart (v : Value) : Except Defect Probe :=
    if v.isKey then return .ofCell? (← v.numericCell?) else .error .wrongKind
  match v with
  | list [part] => ofPart part
  | object [(name, part)] => if name = column then ofPart part else .error .badKey
  | list _ | object _ => .error .badKey
  | v => ofPart v

end Value

end Assessment
