import Assessment.Number.Power
import Assessment.Number.Rounding

/-!
# Decimal numbers

A decimal keeps its sign, its coefficient and its exponent, so that `1.5` and `1.50` are two
decimals of one value. Infinities and the two kinds of not-a-number are decimals too.
-/

namespace Assessment.Number

/-- A decimal number: `±coefficient · 10 ^ exponent`, an infinity, or not a number. -/
inductive Decimal where
  | finite (negative : Bool) (coefficient : Nat) (exponent : Int)
  | infinite (negative : Bool)
  | nan (negative signaling : Bool) (payload : Nat)
  deriving DecidableEq, Repr

namespace Decimal

def ofInt (n : Int) : Decimal := .finite (n < 0) n.natAbs 0

/-- Zero as a sum starts with it. -/
def zero : Decimal := .finite false 0 0

def zeroHundredths : Decimal := .finite false 0 (-2)

def isFinite : Decimal → Bool
  | finite .. => true
  | _ => false

def isZero : Decimal → Bool
  | finite _ c _ => c == 0
  | _ => false

/-- The power of ten of the leading digit. -/
def adjusted (coefficient : Nat) (exponent : Int) : Int :=
  exponent + digitCount coefficient - 1

/-- Compares two magnitudes `c · 10 ^ e`. The leading digits decide unless they stand at one power
of ten; then the exponents differ by fewer places than there are digits. -/
def compareMagnitude (c₁ : Nat) (e₁ : Int) (c₂ : Nat) (e₂ : Int) : Ordering :=
  if c₁ = 0 then (if c₂ = 0 then .eq else .lt)
  else if c₂ = 0 then .gt
  else if adjusted c₁ e₁ < adjusted c₂ e₂ then .lt
  else if adjusted c₂ e₂ < adjusted c₁ e₁ then .gt
  else
    let e := min e₁ e₂
    compare (c₁ * tenPow (e₁ - e).toNat) (c₂ * tenPow (e₂ - e).toNat)

/-- Compares by value; nothing compares with what is not a number. -/
def compare? : Decimal → Decimal → Option Ordering
  | nan .., _ => none
  | _, nan .. => none
  | infinite s, infinite t =>
    some (if s = t then .eq else if s then .lt else .gt)
  | infinite s, finite .. => some (if s then .lt else .gt)
  | finite .., infinite t => some (if t then .gt else .lt)
  | finite s c₁ e₁, finite t c₂ e₂ =>
    if c₁ = 0 ∧ c₂ = 0 then some .eq
    else if c₁ = 0 then some (if t then .gt else .lt)
    else if c₂ = 0 then some (if s then .lt else .gt)
    else if s ≠ t then some (if s then .lt else .gt)
    else if s then some (compareMagnitude c₂ e₂ c₁ e₁)
    else some (compareMagnitude c₁ e₁ c₂ e₂)

def sameValue (a b : Decimal) : Bool := compare? a b == some .eq

/-- The integer part, toward zero, of a finite decimal. -/
def truncate (negative : Bool) (coefficient : Nat) (exponent : Int) : Int :=
  let n : Nat :=
    if exponent < 0 then
      if digitCount coefficient ≤ (-exponent).toNat then 0
      else coefficient / tenPow (-exponent).toNat
    else if coefficient = 0 then 0
    else coefficient * tenPow exponent.toNat
  if negative then -(n : Int) else n

end Decimal

end Assessment.Number
