import Assessment.Number.Binary64
import Assessment.Number.Decimal.Text
import Assessment.Time.Instant

/-!
# Loose values

Requests carry values whose kind is not known before they are checked. A value is what a request
field may hold and what a response is made of.
-/

namespace Assessment

open Assessment.Number Assessment.Time

/-- A value of a request or a response. -/
inductive Value where
  | null
  | bool (b : Bool)
  | int (n : Int)
  | float (x : Binary64)
  | decimal (d : Decimal)
  | text (s : String)
  | moment (t : Timestamp)
  | date (d : Date)
  | list (items : List Value)
  | object (members : List (String × Value))
  deriving Repr, Inhabited

namespace Value

mutual

/-- Are two values made in the same way? -/
def identical : Value → Value → Bool
  | null, null => true
  | bool a, bool b => decide (a = b)
  | int a, int b => decide (a = b)
  | float a, float b => decide (a = b)
  | decimal a, decimal b => decide (a = b)
  | text a, text b => decide (a = b)
  | moment a, moment b => decide (a = b)
  | date a, date b => decide (a = b)
  | list a, list b => identicalItems a b
  | object a, object b => identicalMembers a b
  | _, _ => false

/-- Are the items of two lists made in the same way? -/
def identicalItems : List Value → List Value → Bool
  | [], [] => true
  | a :: as, b :: bs => identical a b && identicalItems as bs
  | _, _ => false

/-- Are the members of two objects made in the same way? -/
def identicalMembers : List (String × Value) → List (String × Value) → Bool
  | [], [] => true
  | (m, a) :: as, (n, b) :: bs => decide (m = n) && identical a b && identicalMembers as bs
  | _, _ => false

end

mutual

/-- Values that are made in the same way are equal. -/
theorem identical_iff : ∀ a b : Value, identical a b = true ↔ a = b
  | null, b => by cases b <;> simp [identical]
  | bool a, b => by cases b <;> simp [identical]
  | int a, b => by cases b <;> simp [identical]
  | float a, b => by cases b <;> simp [identical]
  | decimal a, b => by cases b <;> simp [identical]
  | text a, b => by cases b <;> simp [identical]
  | moment a, b => by cases b <;> simp [identical]
  | date a, b => by cases b <;> simp [identical]
  | list as, b => by
    cases b with
    | list bs => simp [identical, identicalItems_iff as bs]
    | _ => simp [identical]
  | object as, b => by
    cases b with
    | object bs => simp [identical, identicalMembers_iff as bs]
    | _ => simp [identical]

/-- Lists of items that are made in the same way are equal. -/
theorem identicalItems_iff : ∀ as bs : List Value, identicalItems as bs = true ↔ as = bs
  | [], bs => by cases bs <;> simp [identicalItems]
  | a :: as, bs => by
    cases bs with
    | nil => simp [identicalItems]
    | cons b bs => simp [identicalItems, identical_iff a b, identicalItems_iff as bs]

/-- Lists of members that are made in the same way are equal. -/
theorem identicalMembers_iff :
    ∀ as bs : List (String × Value), identicalMembers as bs = true ↔ as = bs
  | [], bs => by cases bs <;> simp [identicalMembers]
  | (m, a) :: as, bs => by
    cases bs with
    | nil => simp [identicalMembers]
    | cons b bs =>
      obtain ⟨n, b⟩ := b
      simp [identicalMembers, identical_iff a b, identicalMembers_iff as bs, and_assoc]

end

instance : DecidableEq Value := fun a b => decidable_of_iff _ (identical_iff a b)

/-- Everything but nothing, falsehood, zero, and what is empty. -/
def truthy : Value → Bool
  | null => false
  | bool b => b
  | int n => n != 0
  | float x => !x.isZero
  | decimal d => !d.isZero
  | text s => !s.isEmpty
  | moment _ => true
  | date _ => true
  | list items => !items.isEmpty
  | object members => !members.isEmpty

def isNull : Value → Bool
  | null => true
  | _ => false

/-- The member of an object with a name. -/
def member? (name : String) : Value → Option Value
  | object members => (members.find? (·.1 == name)).map (·.2)
  | _ => none

/-- The member of an object with a name, or the absent value. -/
def memberOrNull (name : String) (v : Value) : Value := (v.member? name).getD null

def ofText? : Option String → Value
  | none => null
  | some s => text s

def ofInt? : Option Int → Value
  | none => null
  | some n => int n

def ofNat (n : Nat) : Value := int n

def ofInstant (t : Instant) : Value := moment t.timestamp

def ofInstant? : Option Instant → Value
  | none => null
  | some t => ofInstant t

def ofDecimal? : Option Decimal → Value
  | none => null
  | some d => decimal d

mutual

/-- The value with decimals, dates and times replaced by their texts, as responses carry it. -/
def plain : Value → Value
  | decimal d => text d.text
  | moment t => text t.text
  | date d => text d.text
  | list items => list (plainList items)
  | object members => object (plainMembers members)
  | v => v

def plainList : List Value → List Value
  | [] => []
  | v :: rest => plain v :: plainList rest

def plainMembers : List (String × Value) → List (String × Value)
  | [] => []
  | (name, v) :: rest => (name, plain v) :: plainMembers rest

end

end Value

end Assessment
