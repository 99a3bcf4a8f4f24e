/-!
# Sorting

A list is put in order item by item. Items that may precede each other keep the order that they have.
-/

namespace Assessment

variable {α : Type}

/-- A list with an item before the first one that it may precede. -/
def insertBy (precedes : α → α → Bool) (a : α) : List α → List α
  | [] => [a]
  | b :: rest => if precedes a b then a :: b :: rest else b :: insertBy precedes a rest

def sortBy (precedes : α → α → Bool) : List α → List α
  | [] => []
  | a :: rest => insertBy precedes a (sortBy precedes rest)

end Assessment
