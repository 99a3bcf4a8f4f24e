/-!
# Powers of ten and of two

Decimals are scaled by powers of ten and doubles by powers of two.
-/

namespace Assessment.Number

def tenPow (k : Nat) : Nat := Nat.pow 10 k

def twoPow (k : Nat) : Nat := Nat.pow 2 k

end Assessment.Number
