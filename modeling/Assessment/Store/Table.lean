/-!
# Tables

A table is a list of rows, each with a number of its own. A new row takes the number after the largest
one in use, so the numbers of rows that were removed from the end are used again.
-/

namespace Assessment

/-- Rows that carry a number. -/
class Row (α : Type) where
  id : α → Int

namespace Table

variable {α : Type} [Row α]

def nextId (rows : List α) : Int := (rows.map Row.id).foldl max 0 + 1

def find? (id : Int) (rows : List α) : Option α := rows.find? fun r => Row.id r == id

def has (id : Int) (rows : List α) : Bool := rows.any fun r => Row.id r == id

def modify (id : Int) (f : α → α) (rows : List α) : List α :=
  rows.map fun r => if Row.id r = id then f r else r

def remove (id : Int) (rows : List α) : List α := rows.filter fun r => Row.id r != id

/-- Adds rows in order, each made from the number it takes. -/
def append (rows : List α) : List (Int → α) → List α
  | [] => rows
  | make :: rest => append (rows ++ [make (nextId rows)]) rest

/-- The row with the largest number among those that satisfy a condition. -/
def latest? (p : α → Bool) (rows : List α) : Option α :=
  (rows.filter p).foldl
    (fun best r =>
      match best with
      | none => some r
      | some b => if Row.id b < Row.id r then some r else some b)
    none

end Table

end Assessment
