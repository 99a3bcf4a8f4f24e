import Assessment.Time.Iso
import Assessment.Value.Coercion
import Assessment.Value.Display

/-!
# Fields of request bodies

A field says what kind of value a request body holds under its name, whether it may be absent, and
whether it may hold no value. What does not fit is described by a message.
-/

namespace Assessment.Schema

open Assessment.Number Assessment.Time

/-- What is wrong with a value. -/
inductive Message where
  | missing
  | empty
  | notText
  | notInteger
  | notNumber
  | notBoolean
  | notTime
  | notList
  | notObject
  | tooLarge
  | special
  | lengthBetween (low high : Nat)
  | tooLong (high : Nat)
  deriving DecidableEq, Repr

def Message.text : Message → String
  | missing => "Missing data for required field."
  | empty => "Field may not be null."
  | notText => "Not a valid string."
  | notInteger => "Not a valid integer."
  | notNumber => "Not a valid number."
  | notBoolean => "Not a valid boolean."
  | notTime => "Not a valid datetime."
  | notList => "Not a valid list."
  | notObject => "Invalid input type."
  | tooLarge => "Number too large."
  | special => "Special numeric values (nan or infinity) are not permitted."
  | lengthBetween low high =>
    "Length must be between " ++ toString low ++ " and " ++ toString high ++ "."
  | tooLong high => "Longer than maximum length " ++ toString high ++ "."

inductive Kind where
  /-- A text with the least and the largest number of characters, if they are limited. -/
  | text (low high : Option Nat)
  /-- An integer, or what reads as one. -/
  | integer
  /-- An integer and nothing else. -/
  | strictInteger
  | decimal
  | boolean
  | moment
  deriving DecidableEq, Repr

/-- A field of a body: absent, it takes its default, and without one it is required. -/
structure Field where
  name : String
  kind : Kind
  default? : Option Value
  nullable : Bool

def Field.required (name : String) (kind : Kind) : Field := ⟨name, kind, none, false⟩

/-- A field that may be absent, with the value it then takes. -/
def Field.withDefault (name : String) (kind : Kind) (v : Value) : Field := ⟨name, kind, some v, false⟩

/-- A field that may be absent or hold no value. -/
def Field.optional (name : String) (kind : Kind) : Field := ⟨name, kind, some .null, true⟩

def trueTexts : List String :=
  ["t", "T", "true", "True", "TRUE", "on", "On", "ON", "y", "Y", "yes", "Yes", "YES", "1"]

def falseTexts : List String :=
  ["f", "F", "false", "False", "FALSE", "off", "Off", "OFF", "n", "N", "no", "No", "NO", "0"]

/-- Is a value a number equal to `k`? -/
def isNumber (k : Int) : Value → Bool
  | .int n => n == k
  | .float x => x.equalsInt k
  | .decimal d => d.sameValue (.ofInt k)
  | _ => false

def readBoolean (v : Value) : Except Message Value :=
  match v with
  | .bool b => .ok (.bool b)
  | .text s =>
    if trueTexts.contains s then .ok (.bool true)
    else if falseTexts.contains s then .ok (.bool false)
    else .error .notBoolean
  | v =>
    if isNumber 1 v then .ok (.bool true)
    else if isNumber 0 v then .ok (.bool false)
    else .error .notBoolean

/-- Reads a text within its limits. -/
def readText (low high : Option Nat) (v : Value) : Except Message Value :=
  match v with
  | .text s =>
    match low, high with
    | some l, some h =>
      if s.length < l || h < s.length then .error (.lengthBetween l h) else .ok v
    | none, some h => if h < s.length then .error (.tooLong h) else .ok v
    | _, none => .ok v
  | _ => .error .notText

/-- Reads an integer; truth values do not count. -/
def readInteger (v : Value) : Except Message Value :=
  match v with
  | .bool _ => .error .notInteger
  | v =>
    match v.toInteger with
    | .ok n => .ok (.int n)
    | .error .outOfRange => .error .tooLarge
    | .error _ => .error .notInteger

/-- Reads a finite decimal from the text of a value; truth values do not count. -/
def readDecimal (v : Value) : Except Message Value :=
  match v with
  | .bool _ => .error .notNumber
  | v =>
    match Decimal.read? v.display with
    | none => .error .notNumber
    | some d => if d.isFinite then .ok (.decimal d) else .error .special

/-- Reads a time; one without an offset is universal time. -/
def readMoment (v : Value) : Except Message Value :=
  match v with
  | .text s =>
    match Iso.timestamp? s with
    | none => .error .notTime
    | some t => .ok (.moment { t with offset := some (t.offset.getD 0) })
  | _ => .error .notTime

def Kind.read : Kind → Value → Except Message Value
  | text low high, v => readText low high v
  | integer, v => readInteger v
  | strictInteger, v =>
    match v with
    | .int n => .ok (.int n)
    | _ => .error .notInteger
  | decimal, v => readDecimal v
  | boolean, v => readBoolean v
  | moment, v => readMoment v

/-- Reads the value of a field, if there is one. -/
def Field.read (f : Field) : Option Value → Except Message Value
  | none =>
    match f.default? with
    | some v => .ok v
    | none => .error .missing
  | some v =>
    if v.isNull then (if f.nullable then .ok .null else .error .empty)
    else f.kind.read v

end Assessment.Schema
