import Assessment.Number.Decimal.Arithmetic
import Assessment.Refusal
import Assessment.Value.Coercion
import Assessment.Value.Display

/-!
# Reading request fields

Each reader takes a loose value to what the domain works with. What a reader cannot take is refused
when a person may have written it, and a defect otherwise.
-/

namespace Assessment.Request

open Assessment.Number Assessment.Time

instance : MonadLift (Except Defect) (Except Fault) := ⟨fun x => x.mapError .crashed⟩

/-- An integer, or nothing when the value does not read as one; a number without a finite integer part
is a defect. -/
def tryInteger (v : Value) : Except Fault (Option Int) :=
  match v.toInteger with
  | .ok n => .ok (some n)
  | .error .outOfRange => .error (.crashed .outOfRange)
  | .error _ => .ok none

/-- A positive integer; truth values do not count as numbers. -/
def readPositive (label : String) (v : Value) : Except Fault Int := do
  let n ←
    match v with
    | .bool _ => pure none
    | v => tryInteger v
  match n with
  | some n => if 0 < n then return n else throw (.refused (.notPositive label))
  | none => throw (.refused (.notPositive label))

/-- A finite decimal, read from the text of the value. -/
def readDecimal (label : String) (v : Value) : Except Fault Decimal :=
  match Decimal.read? v.display with
  | some d => if d.isFinite then .ok d else .error (.refused (.notANumber label))
  | none => .error (.refused (.notANumber label))

/-- A score with two places; a half goes up. The absent value stays absent. -/
def readScore? (label : String) (v : Value) : Except Fault (Option Decimal) :=
  if v.isNull then .ok none
  else do
    let d ← readDecimal label v
    return some (← (d.toHundredths .halfUp : Except Defect Decimal))

/-- A text without the blanks around it; an empty value is an empty text, and other values have no
blanks to remove. -/
def readTrimmed (v : Value) : Except Fault String :=
  if !v.truthy then .ok ""
  else
    match v with
    | .text s => .ok (Text.trim s)
    | _ => .error (.crashed .missingMember)

/-- The items of a list; an empty value has none, and the characters of a text and the names of an
object count as its items. -/
def readItems (v : Value) : Except Fault (List Value) :=
  if !v.truthy then .ok [] else (v.elements).mapError .crashed

/-- An instant; the absent value stays absent. Only times have one. -/
def readInstant? (v : Value) : Except Fault (Option Instant) :=
  match v with
  | .null => .ok none
  | .moment t => do return some (← t.instant)
  | _ => .error (.crashed .missingMember)

/-- A time allowance in seconds; the absent value is none. -/
def readAllowance? (v : Value) : Except Fault (Option Duration) :=
  if v.isNull then .ok none
  else do
    let seconds ← (v.toBinary64 : Except Defect Binary64)
    return some (← (Duration.ofQuantity .seconds (.fractional seconds) : Except Defect Duration))

/-- The end of a time allowance that begins now; without an allowance there is none. -/
def readDeadline? (now : Instant) (v : Value) : Except Fault (Option Instant) := do
  match ← readAllowance? v with
  | none => return none
  | some allowance => return some (← (now.add allowance : Except Defect Instant))

def isExpired (now : Instant) : Option Instant → Bool
  | none => false
  | some deadline => deadline ≤ now

def maxMessageLength : Nat := 500

/-- A message without the blanks around it; an empty message is none. -/
def readMessage? (v : Value) : Except Fault (Option String) := do
  let message ← readTrimmed v
  if maxMessageLength < message.length then throw (.refused .messageTooLong)
  return if message.isEmpty then none else some message

end Assessment.Request
