import Assessment.Number.Binary64
import Assessment.Number.Significant
import Assessment.Storable
import Assessment.Text.Surrogate
import Assessment.Value.Coercion
import Assessment.Value.Display

/-!
# Cells

What a column of the store holds where it holds something: an integer of 64 bits, a double, or a text.
A column of numbers takes a text that writes a number as that number, and a double without a fraction
as an integer. In order, numbers come before texts.
-/

namespace Assessment

open Assessment.Number

inductive Cell where
  | whole (n : Int)
  | fractional (x : Binary64)
  | text (s : String)
  deriving DecidableEq, Repr

namespace Cell

/-- A double in a column of numbers: an integer if it is one that a table can hold. -/
def ofFloat (x : Binary64) : Cell :=
  match x with
  | .finite s m e =>
    let n := Binary64.truncate s m e
    if x.equalsInt n && isStorable n && isStorable (n - 1) then .whole n else .fractional x
  | _ => .fractional x

/-- The blanks that may surround a number in a text. -/
def isSpace (c : Char) : Bool := c == ' ' || ('\t' ≤ c && c ≤ '\r')

def ofText (s : String) : Cell :=
  let cs := Text.trimBy isSpace s.toList
  match readSigned? cs with
  | some n => if isStorable n then .whole n else ofFloat (.ofInt n)
  | none =>
    match Numeral.read? cs with
    | some n => ofFloat (.ofScaled n.negative n.coefficient n.exponent)
    | none => .text s

/-- What a column of numbers makes of a cell. -/
def numeric : Cell → Cell
  | whole n => .whole n
  | fractional x => ofFloat x
  | text s => ofText s

/-- What a column of texts makes of a cell. -/
def written : Cell → String
  | whole n => toString n
  | fractional x => x.significantText
  | text s => s

def value : Cell → Value
  | whole n => .int n
  | fractional x => .float x
  | text s => .text s

def value? (c : Option Cell) : Value := (c.map value).getD .null

def isText : Cell → Bool
  | text _ => true
  | _ => false

/-- Numbers by value before texts by their characters. -/
def le : Cell → Cell → Bool
  | text a, text b => a ≤ b
  | text _, _ => false
  | _, text _ => true
  | whole a, whole b => a ≤ b
  | whole a, fractional y => (Decimal.compare? (.ofInt a) y.toDecimal).any (· != .gt)
  | fractional x, whole b => (Decimal.compare? x.toDecimal (.ofInt b)).any (· != .gt)
  | fractional x, fractional y => (Decimal.compare? x.toDecimal y.toDecimal).any (· != .gt)

end Cell

namespace Value

/-- What a value is to the store, before a column makes something of it. What is no number is nothing. -/
def cell? : Value → Except Defect (Option Cell)
  | null => .ok none
  | bool b => .ok (some (.whole (if b then 1 else 0)))
  | int n => if isStorable n then .ok (some (.whole n)) else .error .outOfRange
  | float .nan => .ok none
  | float x => .ok (some (.fractional x))
  | text s => if Text.hasEncoding s then .ok (some (.text s)) else .error .noEncoding
  | moment t => .ok (some (.text (display (.moment t))))
  | date d => .ok (some (.text d.text))
  | decimal _ | list _ | object _ => .error .unknownToStore

/-- What a column of numbers holds for a value. -/
def numericCell? (v : Value) : Except Defect (Option Cell) := return (← v.cell?).map Cell.numeric

/-- What a column of texts holds for a value. -/
def writtenCell? (v : Value) : Except Defect (Option String) := return (← v.cell?).map Cell.written

end Value

end Assessment
