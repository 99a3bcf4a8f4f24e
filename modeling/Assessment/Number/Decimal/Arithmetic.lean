import Assessment.Defect
import Assessment.Number.Decimal

/-!
# Decimal arithmetic

Results carry at most 28 digits; a longer one goes to the nearest decimal of 28 digits, to the
even one in a tie. A result without a value, or with too many digits for a demanded number of
places, is a defect.
-/

namespace Assessment.Number.Decimal

/-- The number of digits that a result carries. -/
def precision : Nat := 28

/-- The largest power of ten of a result's leading digit. -/
def maxExponent : Int := 999999

def tiniestExponent : Int := -maxExponent - precision + 1

/-- Moves a coefficient to a larger exponent, `places` places up, and rounds. A coefficient whose
digits all vanish with room to spare counts as less than half. -/
def dropPlaces (mode : Rounding) (coefficient places : Nat) : Nat :=
  if digitCount coefficient < places then 0 else mode.quotient coefficient (tenPow places)

/-- Fits a finite result into the precision and the range of exponents. -/
def fit (negative : Bool) (coefficient : Nat) (exponent : Int) : Except Defect Decimal :=
  if coefficient = 0 then
    .ok (.finite negative 0 (min (max exponent tiniestExponent) maxExponent))
  else
    let wanted := exponent + digitCount coefficient - precision
    let top := maxExponent - precision + 1
    if top < wanted then .error .arithmeticOverflow
    else
      let floor := max wanted tiniestExponent
      if exponent < floor then
        let c := dropPlaces .halfEven coefficient (floor - exponent).toNat
        -- A carry into a further digit ends in a zero, which the exponent takes over.
        let (c, e) := if precision < digitCount c then (c / 10, floor + 1) else (c, floor)
        if top < e then .error .arithmeticOverflow else .ok (.finite negative c e)
      else .ok (.finite negative coefficient exponent)

/-- What an operation yields when an operand is not a number: the first such operand, quiet. -/
def propagate (a b : Decimal) : Except Defect Decimal :=
  match a, b with
  | nan _ true _, _ => .error .undefinedArithmetic
  | _, nan _ true _ => .error .undefinedArithmetic
  | nan .., _ => .ok a
  | _, _ => .ok b

/-- Brings two non-zero operands to one exponent. An operand too small to touch the digits that are
kept is replaced by a single unit just below them. -/
def align (c₁ : Nat) (e₁ : Int) (c₂ : Nat) (e₂ : Int) : Nat × Nat × Int :=
  let (big, bigExp, small, smallExp, swapped) :=
    if e₁ < e₂ then (c₂, e₂, c₁, e₁, true) else (c₁, e₁, c₂, e₂, false)
  let floor := bigExp + min (-1) ((digitCount big : Int) - precision - 2)
  let (small, smallExp) :=
    if smallExp + digitCount small - 1 < floor then (1, floor) else (small, smallExp)
  let big := big * tenPow (bigExp - smallExp).toNat
  if swapped then (small, big, smallExp) else (big, small, smallExp)

/-- A non-zero operand that a zero of another exponent is added to. -/
def addZero (zeroExponent : Int) (negative : Bool) (c : Nat) (e : Int) : Except Defect Decimal :=
  let target := max (min zeroExponent e) (e - precision - 1)
  fit negative (c * tenPow (e - target).toNat) target

def add : Decimal → Decimal → Except Defect Decimal
  | infinite s, infinite t => if s = t then .ok (.infinite s) else .error .undefinedArithmetic
  | infinite s, finite .. => .ok (.infinite s)
  | finite .., infinite t => .ok (.infinite t)
  | finite s c₁ e₁, finite t c₂ e₂ =>
    if c₁ = 0 then
      if c₂ = 0 then fit (s && t) 0 (min e₁ e₂) else addZero e₁ t c₂ e₂
    else if c₂ = 0 then addZero e₂ s c₁ e₁
    else
      let (a, b, e) := align c₁ e₁ c₂ e₂
      if s = t then fit s (a + b) e
      else if a = b then fit false 0 (min e₁ e₂)
      else if b < a then fit s (a - b) e
      else fit t (b - a) e
  | a, b => propagate a b

def mul : Decimal → Decimal → Except Defect Decimal
  | infinite s, infinite t => .ok (.infinite (s != t))
  | infinite s, finite t c _ =>
    if c = 0 then .error .undefinedArithmetic else .ok (.infinite (s != t))
  | finite s c _, infinite t =>
    if c = 0 then .error .undefinedArithmetic else .ok (.infinite (s != t))
  | finite s c₁ e₁, finite t c₂ e₂ => fit (s != t) (c₁ * c₂) (e₁ + e₂)
  | a, b => propagate a b

/-- Trailing zeros go into the exponent until it reaches the given one. The fuel bounds the number of
zeros. -/
def stripZeros : Nat → Nat → Int → Int → Nat × Int
  | 0, c, e, _ => (c, e)
  | fuel + 1, c, e, ideal =>
    if e < ideal ∧ c % 10 = 0 then stripZeros fuel (c / 10) (e + 1) ideal else (c, e)

/-- The quotient of two non-zero operands: enough digits to round from, and a last digit that is
neither 0 nor 5 when the division leaves a remainder. -/
def quotientDigits (c₁ : Nat) (e₁ : Int) (c₂ : Nat) (e₂ : Int) : Nat × Int :=
  let shift : Int := (digitCount c₂ : Int) - digitCount c₁ + precision + 1
  let n := c₁ * tenPow shift.toNat
  let d := c₂ * tenPow (-shift).toNat
  let e := e₁ - e₂ - shift
  if n % d = 0 then stripZeros (digitCount (n / d)) (n / d) e (e₁ - e₂)
  else if n / d % 5 = 0 then (n / d + 1, e)
  else (n / d, e)

def div : Decimal → Decimal → Except Defect Decimal
  | infinite _, infinite _ => .error .undefinedArithmetic
  | infinite s, finite t _ _ => .ok (.infinite (s != t))
  | finite s _ _, infinite t => .ok (.finite (s != t) 0 tiniestExponent)
  | finite s c₁ e₁, finite t c₂ e₂ =>
    if c₂ = 0 then .error .undefinedArithmetic
    else if c₁ = 0 then fit (s != t) 0 (e₁ - e₂)
    else
      let (c, e) := quotientDigits c₁ e₁ c₂ e₂
      fit (s != t) c e
  | a, b => propagate a b

def toHundredths (mode : Rounding) : Decimal → Except Defect Decimal
  | nan s signaling payload =>
    if signaling then .error .undefinedArithmetic else .ok (.nan s false payload)
  | infinite _ => .error .undefinedArithmetic
  | finite s c e =>
    if c = 0 then .ok (.finite s 0 (-2))
    else if precision < adjusted c e + 3 then .error .undefinedArithmetic
    else
      let scaled :=
        if e < -2 then dropPlaces mode c (-2 - e).toNat else c * tenPow (e + 2).toNat
      if precision < digitCount scaled then .error .undefinedArithmetic
      else .ok (.finite s scaled (-2))

/-- Is `a` less than `b`? Undefined when one of them is not a number. -/
def less (a b : Decimal) : Except Defect Bool :=
  match compare? a b with
  | some o => .ok (o == .lt)
  | none => .error .undefinedArithmetic

/-- Is `a` at most `b`? Undefined when one of them is not a number. -/
def atMost (a b : Decimal) : Except Defect Bool :=
  match compare? a b with
  | some o => .ok (o != .gt)
  | none => .error .undefinedArithmetic

end Assessment.Number.Decimal
