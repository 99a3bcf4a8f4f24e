import Assessment.Defect
import Assessment.Value

/-!
# Equality and order of loose values

Numbers of every kind are equal when their values are, and truth values are the numbers one and zero.
Times are equal as instants when both have an offset. What is not a number equals nothing. Only
numbers and only texts have an order.
-/

namespace Assessment.Value

open Assessment.Number Assessment.Time

def number? : Value → Option Decimal
  | bool b => some (Decimal.ofInt (if b then 1 else 0))
  | int n => some (Decimal.ofInt n)
  | float x => some x.toDecimal
  | decimal d => some d
  | _ => none

/-- Are two times the same? A time with an offset and one without it are not. -/
def sameMoment (a b : Timestamp) : Bool :=
  match a.offset, b.offset with
  | none, none => a.micros == b.micros
  | some x, some y => a.micros - x == b.micros - y
  | _, _ => false

def sameAtom (a b : Value) : Bool :=
  match a, b with
  | null, null => true
  | text a, text b => a == b
  | moment a, moment b => sameMoment a b
  | date a, date b => a == b
  | a, b =>
    match a.number?, b.number? with
    | some a, some b => a.sameValue b
    | _, _ => false

mutual

def same : Value → Value → Bool
  | list a, list b => sameItems a b
  | object a, object b => a.length == b.length && sameMembers a b
  | a, b => sameAtom a b

def sameItems : List Value → List Value → Bool
  | [], [] => true
  | a :: as, b :: bs => same a b && sameItems as bs
  | _, _ => false

def sameMembers : List (String × Value) → List (String × Value) → Bool
  | [], _ => true
  | (name, a) :: rest, b =>
    ((b.find? (·.1 == name)).any fun m => same a m.2) && sameMembers rest b

end

/-- Is this a decimal that signals as soon as it is used? -/
def signals : Value → Bool
  | decimal (.nan _ true _) => true
  | _ => false

/-- Are two values equal? To compare a number with a decimal that signals is a defect. -/
def equals (a b : Value) : Except Defect Bool :=
  if (a.signals && b.number?.isSome) || (b.signals && a.number?.isSome) then
    .error .undefinedArithmetic
  else .ok (a.same b)

/-- Is a value equal to one of a list? -/
def isAmong (v : Value) (items : List Value) : Bool := items.any (same v)

/-- Can a value be a key? Lists and objects cannot, nor can a decimal that signals. -/
def isKey : Value → Bool
  | list _ | object _ => false
  | v => !v.signals

def atMost (a b : Value) : Bool :=
  match a, b with
  | text a, text b => a ≤ b
  | a, b =>
    match a.number?, b.number? with
    | some a, some b => (Decimal.compare? a b).any (· != .gt)
    | _, _ => false

/-- The values in order. A list in which both numbers and other values occur has none. -/
def inOrder (items : List Value) : Except Defect (List Value) :=
  let isText : Value → Bool := fun v => match v with
    | text _ => true
    | _ => false
  if items.length < 2 || items.all isText || items.all (·.number?.isSome) then
    .ok (items.mergeSort atMost)
  else .error .wrongKind

end Assessment.Value
