import Assessment.Time.Calendar
import Assessment.Time.Duration

/-!
# Instants and timestamps

An instant is a microsecond of universal time; a timestamp is a local date and time of day with the
offset from universal time, if one is known. Years run from 1 to 9999.
-/

namespace Assessment.Time

/-- The microseconds of all years. -/
def endOfTime : Int := dayCount * Duration.perDay

/-- A point of universal time, in microseconds since the first of January of year 1. -/
structure Instant where
  micros : Int
  deriving DecidableEq, Repr

/-- A local time with its offset east of universal time, both in microseconds. -/
structure Timestamp where
  micros : Int
  offset : Option Int
  deriving DecidableEq, Repr

instance : LT Instant := ⟨fun a b => a.micros < b.micros⟩

instance : LE Instant := ⟨fun a b => a.micros ≤ b.micros⟩

instance (a b : Instant) : Decidable (a < b) := inferInstanceAs (Decidable (a.micros < b.micros))

instance (a b : Instant) : Decidable (a ≤ b) := inferInstanceAs (Decidable (a.micros ≤ b.micros))

namespace Instant

/-- An instant, if it lies in the years that can be held. -/
def ofMicros (micros : Int) : Except Defect Instant :=
  if 0 ≤ micros ∧ micros < endOfTime then .ok ⟨micros⟩ else .error .outOfRange

def add (t : Instant) (d : Duration) : Except Defect Instant := ofMicros (t.micros + d.micros)

def min (a b : Instant) : Instant := if b.micros < a.micros then b else a

/-- An instant of universal time as a timestamp. -/
def timestamp (t : Instant) : Timestamp := ⟨t.micros, some 0⟩

/-- An instant from a date and a time of day. -/
def ofDateTime (d : Date) (hour minute second : Nat) : Instant :=
  ⟨d.number * Duration.perDay + ((hour * 60 + minute) * 60 + second : Nat) * Duration.perSecond⟩

end Instant

namespace Timestamp

/-- The instant of a timestamp; without an offset it is universal time already. -/
def instant (t : Timestamp) : Except Defect Instant :=
  match t.offset with
  | none => .ok ⟨t.micros⟩
  | some offset => Instant.ofMicros (t.micros - offset)

/-- Is a timestamp no later than another? Times with an offset and times without one cannot be
compared. -/
def atMost (a b : Timestamp) : Except Defect Bool :=
  match a.offset, b.offset with
  | none, none => .ok (a.micros ≤ b.micros)
  | some x, some y => .ok (a.micros - x ≤ b.micros - y)
  | _, _ => .error .wrongKind

/-- `HH:MM:SS`, with six more digits when the microsecond is not zero. -/
def clockChars (micros : Nat) : List Char :=
  let seconds := micros / 1000000
  padded 2 (seconds / 3600) ++ ':' :: padded 2 (seconds / 60 % 60) ++ ':' ::
    padded 2 (seconds % 60) ++
    (if micros % 1000000 = 0 then [] else '.' :: padded 6 (micros % 1000000))

/-- `+HH:MM`, with seconds and a fraction as far as they are not zero. -/
def offsetChars (offset : Int) : List Char :=
  let n := offset.natAbs
  let seconds := n / 1000000
  (if offset < 0 then '-' else '+') :: padded 2 (seconds / 3600) ++ ':' ::
    padded 2 (seconds / 60 % 60) ++
    (if seconds % 60 = 0 ∧ n % 1000000 = 0 then []
     else ':' :: padded 2 (seconds % 60) ++
       (if n % 1000000 = 0 then [] else '.' :: padded 6 (n % 1000000)))

def charsWith (separator : Char) (t : Timestamp) : List Char :=
  let n := t.micros.toNat
  let perDay := Duration.perDay.toNat
  (Date.ofNumber (n / perDay)).chars ++ separator :: clockChars (n % perDay) ++
    (match t.offset with
     | none => []
     | some offset => offsetChars offset)

/-- The written form, with `T` between date and time. -/
def text (t : Timestamp) : String := String.ofList (t.charsWith 'T')

end Timestamp

def Instant.text (t : Instant) : String := t.timestamp.text

end Assessment.Time
