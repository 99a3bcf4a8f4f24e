import Assessment.KeyedList
import Assessment.Number.Numeral
import Assessment.Storable
import Assessment.Time.Duration
import Assessment.Value

/-!
# Reading numbers from loose values

Each reader says which kinds of values it works on, which texts it reads, and which numbers it
cannot hold.
-/

namespace Assessment.Value

open Assessment.Number

/-- The integer part, toward zero, of a number, or the integer that a text writes. -/
def toInteger : Value → Except Defect Int
  | bool b => .ok (if b then 1 else 0)
  | int n => .ok n
  | float (.finite s m e) => .ok (Binary64.truncate s m e)
  | float (.infinite _) => .error .outOfRange
  | float .nan => .error .unreadable
  | decimal (.finite s c e) => .ok (Decimal.truncate s c e)
  | decimal (.infinite _) => .error .outOfRange
  | decimal (.nan ..) => .error .unreadable
  | text s =>
    match readInteger? s with
    | some n => .ok n
    | none => .error .unreadable
  | _ => .error .wrongKind

/-- The nearest double of a number, or the double that a text writes. -/
def toBinary64 : Value → Except Defect Binary64
  | bool b => .ok (Binary64.ofInt (if b then 1 else 0))
  | int n =>
    match Binary64.ofInt n with
    | .infinite _ => .error .outOfRange
    | x => .ok x
  | float x => .ok x
  | decimal (.nan _ true _) => .error .unreadable
  | decimal d => .ok (Binary64.ofDecimal d)
  | text s =>
    match Binary64.read? s with
    | some x => .ok x
    | none => .error .unreadable
  | _ => .error .wrongKind

/-- A whole number; truth values are one and zero. Numbers of more than 64 bits are too large for the
parts of a decimal. -/
def wholePart (v : Value) : Except Defect Int :=
  let sized (n : Int) : Except Defect Int := if isStorable n then .ok n else .error .outOfRange
  match v with
  | int n => sized n
  | bool b => .ok (if b then 1 else 0)
  | _ => .error .unreadable

/-- What the last of three parts says of a decimal. -/
inductive Scale where
  | exponent (e : Int)
  | infinite
  | notANumber (signaling : Bool)

/-- The scale that a value says: an exponent, or a letter for a special value. -/
def readScale : Value → Except Defect Scale
  | text s =>
    if s = "F" then .ok .infinite
    else if s = "n" then .ok (.notANumber false)
    else if s = "N" then .ok (.notANumber true)
    else .error .unreadable
  | v => v.wholePart.map .exponent

def readDigit (v : Value) : Except Defect Nat := do
  let n ← v.wholePart
  if 0 ≤ n ∧ n ≤ 9 then return n.toNat else throw .unreadable

/-- The number that a list of digits writes. -/
def readDigits : Value → Except Defect Nat
  | list items => return (← items.mapM readDigit).foldl (fun n d => n * 10 + d) 0
  | _ => .error .unreadable

/-- The decimal of three parts: a sign of zero or one, digits, and a scale. -/
def ofParts (sign digits scale : Value) : Except Defect Decimal := do
  let sign ← sign.wholePart
  if sign ≠ 0 ∧ sign ≠ 1 then throw .unreadable
  let negative := sign == 1
  let scale ← readScale scale
  let coefficient ← readDigits digits
  match scale with
  | .infinite => return .infinite negative
  | .notANumber signaling => return .nan negative signaling coefficient
  | .exponent e =>
    match Decimal.ofParts? negative coefficient e with
    | some d => return d
    | none => throw .undefinedArithmetic

/-- The exact decimal of a number, or the decimal that a text or a list of parts writes. -/
def toDecimal : Value → Except Defect Decimal
  | bool b => .ok (Decimal.ofInt (if b then 1 else 0))
  | int n => .ok (Decimal.ofInt n)
  | float x => .ok x.toDecimal
  | decimal d => .ok d
  | text s =>
    match Decimal.read? s with
    | some d => .ok d
    | none => .error .undefinedArithmetic
  | list [sign, digits, scale] => ofParts sign digits scale
  | list _ => .error .unreadable
  | _ => .error .wrongKind

/-- The items of a list, the characters of a text, or the names of an object. -/
def elements : Value → Except Defect (List Value)
  | list items => .ok items
  | object members => .ok (members.map fun m => .text m.1)
  | text s => .ok (s.toList.map fun c => .text c.toString)
  | _ => .error .wrongKind

/-- How much of a unit of time a value says. -/
def toQuantity : Value → Except Defect Time.Duration.Quantity
  | bool b => .ok (.whole (if b then 1 else 0))
  | int n => .ok (.whole n)
  | float x => .ok (.fractional x)
  | _ => .error .wrongKind

/-- The duration of quantities by the names of their units; other names are a defect. -/
def toDuration (quantities : List (String × Value)) : Except Defect Time.Duration :=
  if quantities.all fun q => Time.Duration.Measure.all.any (·.name == q.1) then
    Time.Duration.ofQuantities fun unit => (KeyedList.get? unit.name quantities).mapM toQuantity
  else .error .wrongKind

end Assessment.Value
