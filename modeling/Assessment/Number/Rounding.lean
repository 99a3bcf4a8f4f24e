/-!
# Rounding a quotient

A quotient of natural numbers is rounded to the nearest number; a mode says which way a tie goes.
-/

namespace Assessment.Number

/-- Which neighbour a value half way between two numbers goes to. -/
inductive Rounding where
  | halfUp
  | halfEven
  deriving DecidableEq, Repr

/-- The number nearest to `n / d`. -/
def Rounding.quotient (mode : Rounding) (n d : Nat) : Nat :=
  let q := n / d
  let r := n % d
  if 2 * r < d then q
  else if d < 2 * r then q + 1
  else
    match mode with
    | .halfUp => q + 1
    | .halfEven => q + q % 2

/-- How many decimal digits a number has; zero has one. -/
def digitCount (n : Nat) : Nat := (Nat.toDigits 10 n).length

end Assessment.Number
