import Assessment.Number.Binary64

/-!
# Stored amounts

An amount is stored as the double nearest to its decimal, and read back as the decimal with a fixed
number of places that is nearest to the exact value of that double.
-/

namespace Assessment

open Assessment.Number

structure Amount where
  stored : Binary64
  deriving DecidableEq, Repr

namespace Amount

/-- The amount of a double. What is no number is no amount, and a zero has no sign. -/
def ofBinary64? : Binary64 → Option Amount
  | .nan => none
  | .finite s m e => some ⟨.finite (s && m != 0) m e⟩
  | x => some ⟨x⟩

/-- The amount that a decimal is stored as. -/
def ofDecimal? (d : Decimal) : Option Amount := ofBinary64? (.ofDecimal d)

/-- The decimal with a number of places that is nearest to an amount. -/
def toPlaces (places : Nat) (a : Amount) : Decimal :=
  match a.stored with
  | .finite s m e =>
    let (n, d) := Binary64.ratio m e
    .finite s (Rounding.halfEven.quotient (n * tenPow places) d) (-places)
  | .infinite s => .infinite s
  | .nan => .nan false false 0

/-- An amount with two places. -/
def toDecimal (a : Amount) : Decimal := a.toPlaces 2

/-- A weight, with four places. -/
def toWeight (a : Amount) : Decimal := a.toPlaces 4

def zero : Amount := ⟨.finite false 0 Binary64.minExponent⟩

end Amount

end Assessment
