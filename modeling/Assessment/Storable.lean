import Assessment.Number.Power

/-!
# Storable numbers

The tables hold integers of 64 bits.
-/

namespace Assessment

def isStorable (n : Int) : Bool := -(Number.twoPow 63 : Int) ≤ n && n < (Number.twoPow 63 : Int)

end Assessment
