import Assessment.Number.Numeral
import Assessment.Number.Decimal

/-!
# Binary floating-point numbers

A double-precision number is `±mantissa · 2 ^ exponent` with at most 53 binary digits and an
exponent of at least -1074. Every operation is the exact rational result rounded to the nearest
such number, to the even one in a tie.
-/

namespace Assessment.Number

inductive Binary64 where
  | finite (negative : Bool) (mantissa : Nat) (exponent : Int)
  | infinite (negative : Bool)
  | nan
  deriving DecidableEq, Repr

namespace Binary64

def minExponent : Int := -1074

def maxExponent : Int := 971

/-- The binary exponent of the leading digit of `n / d`. -/
def leadingExponent (n d : Nat) : Int :=
  let k : Int := (Nat.log2 n : Int) - Nat.log2 d
  if d * twoPow k.toNat ≤ n * twoPow (-k).toNat then k else k - 1

/-- The number nearest to `n / d`. -/
def ofRatio (negative : Bool) (n d : Nat) : Binary64 :=
  if n = 0 ∨ d = 0 then .finite negative 0 minExponent
  else
    let e := max minExponent (leadingExponent n d - 52)
    let m := Rounding.halfEven.quotient (n * twoPow (-e).toNat) (d * twoPow e.toNat)
    -- Rounding up may carry into a 54th digit.
    let (m, e) := if m = twoPow 53 then (twoPow 52, e + 1) else (m, e)
    if maxExponent < e then .infinite negative else .finite negative m e

/-- The number nearest to `c · 10 ^ e`. Exponents beyond the range of all doubles are cut short. -/
def ofScaled (negative : Bool) (c : Nat) (e : Int) : Binary64 :=
  if c = 0 then .finite negative 0 minExponent
  else
    let leading := Decimal.adjusted c e
    if 400 < leading then .infinite negative
    else if leading < -400 then .finite negative 0 minExponent
    else ofRatio negative (c * tenPow e.toNat) (tenPow (-e).toNat)

def ofInt (n : Int) : Binary64 := ofRatio (n < 0) n.natAbs 1

def ofDecimal : Decimal → Binary64
  | .finite s c e => ofScaled s c e
  | .infinite s => .infinite s
  | .nan .. => .nan

def isZero : Binary64 → Bool
  | finite _ m _ => m == 0
  | _ => false

/-- A finite number as a reduced fraction of a power of two: `m / 2 ^ k` or an integer. -/
def reduce : Nat → Nat → Int → Nat × Int
  | 0, m, e => (m, e)
  | fuel + 1, m, e => if e < 0 ∧ m % 2 = 0 then reduce fuel (m / 2) (e + 1) else (m, e)

/-- The exact decimal value of `m · 2 ^ e`. -/
def exactDecimal (negative : Bool) (m : Nat) (e : Int) : Decimal :=
  if m = 0 then .finite negative 0 0
  else
    let (m, e) := reduce 1074 m e
    if e < 0 then .finite negative (m * Nat.pow 5 (-e).toNat) e
    else .finite negative (m * twoPow e.toNat) 0

def toDecimal : Binary64 → Decimal
  | finite s m e => exactDecimal s m e
  | infinite s => .infinite s
  | nan => .nan false false 0

/-- The numerator and the denominator of `m · 2 ^ e`. -/
def ratio (m : Nat) (e : Int) : Nat × Nat := (m * twoPow e.toNat, twoPow (-e).toNat)

/-- The integer part of `m · 2 ^ e`. -/
def wholePart (m : Nat) (e : Int) : Nat :=
  let (n, d) := ratio m e
  n / d

/-- The integer part, toward zero, of a finite number. -/
def truncate (negative : Bool) (m : Nat) (e : Int) : Int :=
  let n : Nat := wholePart m e
  if negative then -(n : Int) else n

/-- The fractional part of a finite number, which is itself a double. -/
def fraction (negative : Bool) (m : Nat) (e : Int) : Binary64 :=
  let (n, d) := ratio m e
  ofRatio negative (n % d) d

/-- Nearest to the product of two finite numbers. -/
def mulFinite (s : Bool) (m₁ : Nat) (e₁ : Int) (t : Bool) (m₂ : Nat) (e₂ : Int) : Binary64 :=
  let (n, d) := ratio (m₁ * m₂) (e₁ + e₂)
  ofRatio (s != t) n d

/-- A finite number as a fraction with a signed numerator. -/
def signedRatio (s : Bool) (m : Nat) (e : Int) : Int × Nat :=
  let (n, d) := ratio m e
  (if s then -(n : Int) else n, d)

/-- Nearest to the sum of two finite numbers. -/
def addFinite (s : Bool) (m₁ : Nat) (e₁ : Int) (t : Bool) (m₂ : Nat) (e₂ : Int) : Binary64 :=
  let (a, b) := signedRatio s m₁ e₁
  let (c, d) := signedRatio t m₂ e₂
  let n := a * d + c * b
  if n = 0 then .finite (s && t) 0 minExponent else ofRatio (n < 0) n.natAbs (b * d)

def equalsInt (x : Binary64) (k : Int) : Bool :=
  match x with
  | finite s m e =>
    let (n, d) := ratio m e
    n % d == 0 && truncate s m e == k
  | _ => false

/-- Reads a double from characters that need no further cleaning. -/
def readPlain? (cs : List Char) : Option Binary64 :=
  match Numeral.read? cs with
  | some n => some (ofScaled n.negative n.coefficient n.exponent)
  | none =>
    let (negative, body) := splitSign cs
    match body.map Char.toLower with
    | ['i', 'n', 'f'] => some (.infinite negative)
    | ['i', 'n', 'f', 'i', 'n', 'i', 't', 'y'] => some (.infinite negative)
    | ['n', 'a', 'n'] => some .nan
    | _ => none

/-- Reads a double from a text: blanks other than separators around it, digits of every script, and
single underscores between digits. -/
def read? (s : String) : Option Binary64 := do
  let cs ← dropSeparators? ((Text.trimBy Text.isSpacing s.toList).map Text.europeanDigit)
  readPlain? cs

end Binary64

end Assessment.Number
