import Assessment.Number.Shortest

/-!
# Doubles in fifteen digits

A double that is kept as a text keeps fifteen significant digits, without zeros at the end but with at
least one digit after the point.
-/

namespace Assessment.Number.Binary64

/-- The fifteen digits of a positive double, as a number and its power of ten. -/
def fifteenDigits (m : Nat) (x : Int) : Nat × Int :=
  let (n, d) := ratio m x
  let e := leadingPower n d - 14
  let c := Rounding.halfUp.quotient (n * tenPow (-e).toNat) (d * tenPow e.toNat)
  if c = tenPow 15 then (tenPow 14, e + 1) else (c, e)

/-- Digits as one digit before the point, at least one after it, and a power of ten. -/
def pointedScientific (digits : List Char) (e : Int) : List Char :=
  scientific (if digits.length = 1 then digits ++ ['0'] else digits) e

/-- The text of a double in fifteen digits. -/
def significantText : Binary64 → String
  | nan => ""
  | infinite s => if s then "-Inf" else "Inf"
  | finite s m x =>
    let sign := if s then ['-'] else []
    if m = 0 then String.ofList (sign ++ "0.0".toList)
    else
      let (c, e) := fifteenDigits m x
      let point := e + 15
      let digits := dropTrailingZeros (Text.digitsOfNat c)
      String.ofList (sign ++
        if -4 < point ∧ point ≤ 15 then positional digits point
        else pointedScientific digits (point - 1))

end Assessment.Number.Binary64
