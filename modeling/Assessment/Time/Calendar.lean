/-!
# The calendar

Days are counted from 0001-01-01 in the Gregorian calendar, which repeats every 400 years of 146097
days.
-/

namespace Assessment.Time

/-- A day of the calendar. -/
structure Date where
  year : Nat
  month : Nat
  day : Nat
  deriving DecidableEq, Repr

/-- Divisible by 4, but of the centuries only those divisible by 400. -/
def isLeap (year : Nat) : Bool :=
  year % 4 == 0 && (year % 100 != 0 || year % 400 == 0)

def daysInMonth (year month : Nat) : Nat :=
  if month = 2 then (if isLeap year then 29 else 28)
  else if month = 4 ∨ month = 6 ∨ month = 9 ∨ month = 11 then 30
  else 31

/-- The days of a year before a month. -/
def daysBeforeMonth (year : Nat) : Nat → Nat
  | 0 | 1 => 0
  | m + 2 => daysBeforeMonth year (m + 1) + daysInMonth year (m + 1)

def daysBeforeYear (y : Nat) : Nat :=
  365 * y + y / 4 - y / 100 + y / 400

/-- Years 1 to 9999, months 1 to 12, and the days that the month has. -/
def Date.isValid (d : Date) : Bool :=
  1 ≤ d.year && d.year ≤ 9999 && 1 ≤ d.month && d.month ≤ 12 && 1 ≤ d.day &&
    d.day ≤ daysInMonth d.year d.month

/-- The number of days from 0001-01-01 to a day. -/
def Date.number (d : Date) : Nat :=
  daysBeforeYear (d.year - 1) + daysBeforeMonth d.year d.month + (d.day - 1)

/-- The last of the months from `m` on that begins at or before day `n` of a year, with the day of
that month. -/
def monthOf (year : Nat) : Nat → Nat → Nat → Nat × Nat
  | 0, m, n => (m, n + 1)
  | left + 1, m, n =>
    if n < daysInMonth year m then (m, n + 1)
    else monthOf year left (m + 1) (n - daysInMonth year m)

/-- The day with a number. The average year of the cycle gives its year, or the
year before it. -/
def Date.ofNumber (n : Nat) : Date :=
  let y := n * 400 / 146097
  let y := if daysBeforeYear (y + 1) ≤ n then y + 1 else y
  let (month, day) := monthOf (y + 1) 11 1 (n - daysBeforeYear y)
  ⟨y + 1, month, day⟩

def dayCount : Nat := 3652059

/-- A number with leading zeros up to a width. -/
def padded (width n : Nat) : List Char :=
  let digits := Nat.toDigits 10 n
  List.replicate (width - digits.length) '0' ++ digits

def Date.chars (d : Date) : List Char :=
  padded 4 d.year ++ '-' :: padded 2 d.month ++ '-' :: padded 2 d.day

def Date.text (d : Date) : String := String.ofList d.chars

end Assessment.Time
