import Assessment.Amount
import Assessment.Probe
import Assessment.Time.Instant

/-!
# Columns

A column has a name, and says what a row holds in it. What a query asks of a column depends on what
the column holds, and not on the rows.
-/

namespace Assessment

open Assessment.Time

inductive Column (α : Type) where
  /-- Whole numbers, or what stands in their place. -/
  | number (name : String) (held : α → Option Cell)
  /-- Amounts with a number of places. -/
  | amount (name : String) (places : Nat) (held : α → Option Amount)
  | text (name : String) (held : α → Option String)
  | truth (name : String) (held : α → Bool)
  | time (name : String) (held : α → Option Instant)

namespace Column

variable {α : Type}

/-- A column that always holds a whole number. -/
def whole (name : String) (held : α → Int) : Column α :=
  number name fun row => some (.whole (held row))

/-- A column that holds a whole number or nothing. -/
def whole? (name : String) (held : α → Option Int) : Column α :=
  number name fun row => (held row).map .whole

def words (name : String) (held : α → String) : Column α := text name fun row => some (held row)

def instant (name : String) (held : α → Instant) : Column α := time name fun row => some (held row)

def name : Column α → String
  | number name _ | amount name _ _ | text name _ | truth name _ | time name _ => name

def value (row : α) : Column α → Value
  | number _ held => Cell.value? (held row)
  | amount _ places held => .ofDecimal? ((held row).map (Amount.toPlaces places))
  | text _ held => .ofText? (held row)
  | truth _ held => .bool (held row)
  | time _ held => .ofInstant? (held row)

def bit (b : Bool) : Cell := .whole (if b then 1 else 0)

/-- The query for a value in a column that holds single numbers only. -/
def singleProbe : Value → Except Defect Probe
  | .list _ | .object _ => .error .unfitForColumn
  | v => v.probe

/-- The query for a value in a column of times. -/
def timeQuery : Value → Except Defect (Option Instant → Bool)
  | .null => .ok Option.isNone
  | .bool _ => .ok fun _ => false
  | .moment t =>
    match t.instant with
    | .ok t => .ok fun held => held == some t
    | .error _ => .error .unfitForColumn
  | _ => .error .unfitForColumn

/-- What a query for a value asks of a row. -/
def query (v : Value) : Column α → Except Defect (α → Bool)
  | number _ held => do
    let p ← v.probe
    return fun row => p.finds (held row)
  | amount _ _ held => do
    let p ← singleProbe v
    return fun row => p.finds ((held row).map fun a => Cell.ofFloat a.stored)
  | text _ held => do
    let p ← v.writtenProbe
    return fun row => p.finds ((held row).map Cell.text)
  | truth _ held => do
    let p ← singleProbe v
    return fun row => p.finds (some (bit (held row)))
  | time _ held => do
    let q ← timeQuery v
    return fun row => q (held row)

end Column

end Assessment
