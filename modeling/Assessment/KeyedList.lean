/-!
# Keyed lists

A list of pairs with one pair per key, in the order in which the keys first appeared.
-/

namespace Assessment.KeyedList

variable {κ α : Type} [DecidableEq κ]

/-- Replaces the value of a key at its place, or adds the pair at the end. -/
def put (key : κ) (v : α) : List (κ × α) → List (κ × α)
  | [] => [(key, v)]
  | (k, w) :: rest => if k = key then (k, v) :: rest else (k, w) :: put key v rest

/-- The pairs of a list, of which the last value of each key counts. -/
def ofList (pairs : List (κ × α)) : List (κ × α) :=
  pairs.foldl (fun acc p => put p.1 p.2 acc) []

def get? (key : κ) (pairs : List (κ × α)) : Option α :=
  (pairs.find? (·.1 = key)).map (·.2)

end Assessment.KeyedList
