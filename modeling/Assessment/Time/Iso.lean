import Assessment.Text.Digit
import Assessment.Text.Surrogate
import Assessment.Time.Instant

/-!
# Reading dates and times

The reader admits dates with and without hyphens, week dates, any one character between date and
time, times with and without colons, a fraction after a point or a comma of which six digits count,
and `Z` or a signed offset.
-/

namespace Assessment.Time.Iso

open Assessment.Text

/-- What stands where the text has ended. -/
def nul : Char := Char.ofNat 0

/-- The places at which a time can be separated from its date. -/
def separatorPlaces : List Nat := [7, 8, 10]

/-- The text with the first lone surrogate at a separator's place made a plain separator. -/
def plainSeparator (cs : List Char) : List Char :=
  match separatorPlaces.find? fun i => (cs.getD i nul |> surrogate?).isSome with
  | some i => cs.set i 'T'
  | none => cs

/-- The text in units of encoded bytes: a character outside ASCII counts as often as it has bytes. -/
def units (cs : List Char) : List Char := cs.flatMap fun c => List.replicate c.utf8Size c

def digits? (n : Nat) (cs : List Char) : Option (Nat × List Char) :=
  let head := cs.take n
  if head.length = n ∧ head.all isDigit then some (natOfDigits head, cs.drop n) else none

/-- The length of the date at the start of a text of at least eight units. A week date whose day may
also be an hour is cut before it. -/
def dateLength? (cs : List Char) : Option Nat :=
  let unitAt := fun i => cs.getD i nul
  if cs.length < 7 then none
  else if cs.length = 7 then some 7
  else if unitAt 4 = '-' then
    if unitAt 5 = 'W' then
      if 8 < cs.length ∧ unitAt 8 = '-' then
        if cs.length = 9 then none
        else if 10 < cs.length ∧ isDigit (unitAt 10) then some 8
        else some 10
      else some 8
    else some 10
  else if unitAt 4 = 'W' then
    let stop := 7 + ((cs.drop 7).takeWhile isDigit).length
    if stop < 9 then some stop else if stop % 2 = 0 then some 7 else some 8
  else some 8

/-- The weekday of a day, from Monday as 0. -/
def weekday (n : Nat) : Nat := n % 7

/-- The years that have a week 53: those that begin on a Thursday, and leap years that begin on a
Wednesday. -/
def hasWeek53 (year : Nat) : Bool :=
  let first := weekday (daysBeforeYear (year - 1))
  first == 3 || (first == 2 && isLeap year)

/-- The number of the day before the first Monday of a year's first week, which is the week that
holds the fourth of January. -/
def weekStart (year : Nat) : Int :=
  let first := daysBeforeYear (year - 1)
  if weekday first > 3 then (first : Int) - weekday first + 7 else (first : Int) - weekday first

def ofWeek? (year week day : Nat) : Option Date :=
  if year < 1 ∨ 9999 < year ∨ week < 1 ∨ 53 < week ∨ (week = 53 ∧ !hasWeek53 year) ∨ day < 1 ∨
      7 < day then none
  else
    let n := weekStart year + (week - 1 : Nat) * 7 + (day - 1 : Nat)
    if n < 0 ∨ (dayCount : Int) ≤ n then none else some (Date.ofNumber n.toNat)

/-- Reads a week and an optional day, up to the end. -/
def weekDate? (year : Nat) (hyphens : Bool) (cs : List Char) : Option Date := do
  let (week, rest) ← digits? 2 cs
  if rest.isEmpty then ofWeek? year week 1
  else
    let rest := if hyphens then rest.drop 1 else rest
    if hyphens && cs.getD 2 nul != '-' then none
    else
      let (day, rest) ← digits? 1 rest
      if rest.isEmpty then ofWeek? year week day else none

/-- Reads a month and a day, up to the end. -/
def monthDate? (year : Nat) (hyphens : Bool) (cs : List Char) : Option Date := do
  let (month, rest) ← digits? 2 cs
  if hyphens && rest.getD 0 nul != '-' then none
  else
    let (day, rest) ← digits? 2 (if hyphens then rest.drop 1 else rest)
    let date : Date := ⟨year, month, day⟩
    if rest.isEmpty && date.isValid then some date else none

/-- Reads a date that takes up all the characters. -/
def date? (cs : List Char) : Option Date := do
  let (year, rest) ← digits? 4 cs
  let hyphens := rest.getD 0 nul == '-'
  let rest := if hyphens then rest.drop 1 else rest
  match rest with
  | 'W' :: rest => weekDate? year hyphens rest
  | _ => monthDate? year hyphens rest

/-- A time of day as it is read: up to three fields, a microsecond, and whether something follows. -/
structure ClockText where
  fields : List Nat
  micro : Nat
  followed : Bool

def ClockText.withField (v : Nat) (t : ClockText) : ClockText := { t with fields := v :: t.fields }

/-- Reads a fraction of a second: six digits count, further ones are skipped. -/
def fraction? (after : Char) (cs : List Char) : Option ClockText :=
  let head := cs.take 6
  let rest := (cs.drop 6).dropWhile isDigit
  if head.all isDigit then
    some ⟨[], natOfDigits head * Number.tenPow (6 - head.length), rest.headD after != nul⟩
  else none

/-- Reads up to `n` fields of two digits and a fraction. The first separator decides whether fields
are separated by colons; `after` is what follows the characters. -/
def clock? (after : Char) : Nat → Bool → List Char → Option ClockText
  | 0, _, cs => fraction? after cs
  | n + 1, colons, cs => do
    let (v, rest) ← digits? 2 cs
    let c := rest.headD after
    let colons := if n = 2 then c == ':' else colons
    if rest.length ≤ 1 then some ⟨[v], 0, c != nul⟩
    else if colons && c == ':' then (clock? after n colons (rest.drop 1)).map (·.withField v)
    else if c == '.' || c == ',' then (fraction? after (rest.drop 1)).map (·.withField v)
    else if !colons then (clock? after n colons rest).map (·.withField v)
    else none

/-- Is this the character that opens an offset? -/
def opensOffset (c : Char) : Bool := c == '+' || c == '-' || c == 'Z'

/-- The seconds of a read time of day, as hours, minutes and seconds. -/
def ClockText.seconds (t : ClockText) : Nat :=
  (t.fields.getD 0 0 * 60 + t.fields.getD 1 0) * 60 + t.fields.getD 2 0

/-- The microseconds of a time of day in its limits. -/
def ClockText.micros? (t : ClockText) : Option Int :=
  if t.fields.getD 0 0 ≤ 23 ∧ t.fields.getD 1 0 ≤ 59 ∧ t.fields.getD 2 0 ≤ 59 then
    some (t.seconds * 1000000 + t.micro : Nat)
  else none

/-- Reads what follows a time: nothing, `Z`, or a signed offset below a day. A whole offset of zero
seconds is universal time whatever its fraction. -/
def offset? : List Char → Option (Option Int)
  | [] => some none
  | 'Z' :: rest => if rest.headD nul = nul then some (some 0) else none
  | sign :: rest => do
    let t ← clock? nul 3 true rest
    let n : Int := (t.seconds * 1000000 + t.micro : Nat)
    if t.followed then none
    else if t.seconds = 0 then some (some 0)
    else if n < Duration.perDay then some (some (if sign = '-' then -n else n))
    else none

/-- Reads a time of day with its offset. -/
def time? (cs : List Char) : Option (Int × Option Int) := do
  let body := cs.takeWhile fun c => !opensOffset c
  let rest := cs.dropWhile fun c => !opensOffset c
  let t ← clock? (rest.headD nul) 3 true body
  if rest.isEmpty && t.followed then none
  else
    let offset ← offset? rest
    let micros ← t.micros?
    some (micros, offset)

/-- Reads a timestamp. A date may end in a separator of one unit. -/
def timestamp? (s : String) : Option Timestamp := do
  let cs := units (plainSeparator s.toList)
  let n ← dateLength? cs
  if cs.length < n then none
  else
    let date ← date? (cs.take n)
    let start : Int := date.number * Duration.perDay
    match cs.drop n with
    | [] | [_] => some ⟨start, none⟩
    | c :: rest =>
      let (micros, offset) ← time? (rest.drop (c.utf8Size - 1))
      some ⟨start + micros, offset⟩

def plainDate? (s : String) : Option Date := date? (units s.toList)

end Assessment.Time.Iso
