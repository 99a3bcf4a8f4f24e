import Assessment.Defect
import Assessment.Number.Binary64

/-!
# Durations

A duration is a whole number of microseconds, up to a billion days either way. Durations given in
fractions of a unit are rounded once, to the nearest microsecond, and to the even one in a tie.
-/

namespace Assessment.Time

open Assessment.Number

/-- A length of time in microseconds. -/
structure Duration where
  micros : Int
  deriving DecidableEq, Repr

namespace Duration

def perSecond : Int := 1000000

def perDay : Int := 86400 * perSecond

def maxDays : Int := 999999999

/-- A duration, if it is within a billion days. -/
def ofMicros (micros : Int) : Except Defect Duration :=
  let days := Int.fdiv micros perDay
  if -maxDays ≤ days ∧ days ≤ maxDays then .ok ⟨micros⟩ else .error .outOfRange

def ofSeconds (seconds : Int) : Except Defect Duration := ofMicros (seconds * perSecond)

/-- How much of a unit: a whole number of it, or a double. -/
inductive Quantity where
  | whole (n : Int)
  | fractional (x : Binary64)
  deriving DecidableEq, Repr

/-- What has been added up: whole microseconds, and the fractions of microseconds as a double. -/
structure Tally where
  whole : Int
  rest : Binary64

/-- Adds a quantity of a unit of `factor` microseconds. -/
def Tally.add (t : Tally) (factor : Int) : Quantity → Except Defect Tally
  | .whole n => .ok { t with whole := t.whole + n * factor }
  | .fractional .nan => .error .unreadable
  | .fractional (.infinite _) => .error .outOfRange
  | .fractional (.finite s m e) =>
    let t := { t with whole := t.whole + Binary64.truncate s m e * factor }
    match Binary64.fraction s m e, Binary64.ofInt factor with
    | .finite s m e, .finite u k x =>
      if m = 0 then .ok t
      else
        match Binary64.mulFinite u k x s m e, t.rest with
        | .finite s m e, .finite s' m' e' =>
          let t := { t with whole := t.whole + Binary64.truncate s m e }
          match Binary64.fraction s m e with
          | .finite s m e => .ok { t with rest := Binary64.addFinite s' m' e' s m e }
          | _ => .ok t
        | _, _ => .error .outOfRange
    | _, _ => .error .outOfRange

/-- The whole microseconds after the fractions are rounded to the nearest even total. -/
def Tally.rounded (t : Tally) : Int :=
  match t.rest with
  | .finite s m e =>
    let (n, d) := Binary64.signedRatio s m e
    let total := t.whole * d + n
    let q := total / (d : Int)
    let r := total % (d : Int)
    if 2 * r < d then q else if (d : Int) < 2 * r then q + 1 else q + q % 2
  | _ => t.whole

/-- The units that a duration is given in, the smallest first. -/
inductive Measure where
  | microseconds
  | milliseconds
  | seconds
  | minutes
  | hours
  | days
  | weeks
  deriving DecidableEq, Repr

def Measure.all : List Measure :=
  [.microseconds, .milliseconds, .seconds, .minutes, .hours, .days, .weeks]

def Measure.name : Measure → String
  | .microseconds => "microseconds"
  | .milliseconds => "milliseconds"
  | .seconds => "seconds"
  | .minutes => "minutes"
  | .hours => "hours"
  | .days => "days"
  | .weeks => "weeks"

def Measure.micros : Measure → Int
  | .microseconds => 1
  | .milliseconds => 1000
  | .seconds => perSecond
  | .minutes => 60 * perSecond
  | .hours => 3600 * perSecond
  | .days => perDay
  | .weeks => 7 * perDay

def Tally.empty : Tally := ⟨0, .finite false 0 Binary64.minExponent⟩

/-- The duration of some quantities, read and added from the smallest unit up. -/
def ofQuantities (quantity : Measure → Except Defect (Option Quantity)) : Except Defect Duration := do
  let tally ← Measure.all.foldlM
    (fun (t : Tally) unit => do
      match ← quantity unit with
      | some q => t.add unit.micros q
      | none => return t)
    Tally.empty
  ofMicros tally.rounded

def ofQuantity (unit : Measure) (q : Quantity) : Except Defect Duration := do
  ofMicros (← Tally.empty.add unit.micros q).rounded

end Duration

end Assessment.Time
