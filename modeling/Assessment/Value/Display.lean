import Assessment.Number.Shortest
import Assessment.Text.Quoted
import Assessment.Value

/-!
# The text of a loose value

A value shown as a text. Inside lists and objects texts are quoted, and decimals, dates and times
name what they are made from.
-/

namespace Assessment.Value

open Assessment.Number Assessment.Time

def bracketed (left right : String) (parts : List String) : String :=
  left ++ ", ".intercalate parts ++ right

def dateParts (d : Date) : List String := [toString d.year, toString d.month, toString d.day]

/-- The seconds and microseconds of a time of day, as far as they are not zero. -/
def secondParts (micros : Nat) : List String :=
  let second := micros / 1000000 % 60
  let micro := micros % 1000000
  if micro ≠ 0 then [toString second, toString micro]
  else if second ≠ 0 then [toString second]
  else []

/-- A signed length of time as days, seconds and microseconds, as far as they are not zero. -/
def spanParts (micros : Int) : List String :=
  let days := micros / Duration.perDay
  let seconds := micros % Duration.perDay / Duration.perSecond
  let rest := micros % Duration.perSecond
  [("days=", days), ("seconds=", seconds), ("microseconds=", rest)].filterMap fun (name, n) =>
    if n = 0 then none else some (name ++ toString n)

/-- The offset of a timestamp as a part. -/
def zonePart (offset : Int) : String :=
  if offset = 0 then "tzinfo=datetime.timezone.utc"
  else "tzinfo=datetime.timezone(datetime.timedelta(" ++ ", ".intercalate (spanParts offset) ++ "))"

def momentParts (t : Timestamp) : List String :=
  let n := t.micros.toNat
  let perDay := Duration.perDay.toNat
  let micros := n % perDay
  dateParts (Date.ofNumber (n / perDay)) ++
    [toString (micros / 3600000000), toString (micros / 60000000 % 60)] ++ secondParts micros ++
    (t.offset.map zonePart).toList

mutual

/-- A value as it stands inside a list or an object. -/
def inner : Value → String
  | null => "None"
  | bool b => if b then "True" else "False"
  | int n => toString n
  | float x => x.text
  | decimal d => "Decimal('" ++ d.text ++ "')"
  | text s => Text.quoted s
  | moment t => bracketed "datetime.datetime(" ")" (momentParts t)
  | date d => bracketed "datetime.date(" ")" (dateParts d)
  | list items => bracketed "[" "]" (innerList items)
  | object members => bracketed "\x7b" "\x7d" (innerMembers members)

def innerList : List Value → List String
  | [] => []
  | v :: rest => inner v :: innerList rest

/-- All members of an object, with their names. -/
def innerMembers : List (String × Value) → List String
  | [] => []
  | (name, v) :: rest => (Text.quoted name ++ ": " ++ inner v) :: innerMembers rest

end

/-- A value as a text of its own. -/
def display : Value → String
  | text s => s
  | decimal d => d.text
  | moment t => String.ofList (t.charsWith ' ')
  | date d => d.text
  | v => inner v

end Assessment.Value
