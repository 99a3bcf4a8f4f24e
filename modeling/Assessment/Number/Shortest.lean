import Assessment.Number.Binary64

/-!
# The shortest text of a double

Every decimal in the interval of reals that round to a double reads back as that double. The
shortest such decimals are found by trying 1, 2, … digits: on each grid of that many digits only
the two neighbours of the exact value can be the nearest, and the nearer one inside wins.
-/

namespace Assessment.Number.Binary64

/-- Does `c · 10 ^ e` read back as the positive double `m · 2 ^ x`? -/
def readsBack (m : Nat) (x : Int) (c : Nat) (e : Int) : Bool :=
  ofScaled false c e == .finite false m x

/-- The power of ten of the leading decimal digit of `n / d`. -/
def leadingPower (n d : Nat) : Int :=
  let k : Int := (digitCount n : Int) - digitCount d
  if d * tenPow k.toNat ≤ n * tenPow (-k).toNat then k else k - 1

/-- Tries the grid of `digits` digits: the nearer neighbour of `n / d` that reads back. -/
def tryGrid (m : Nat) (x : Int) (digits : Nat) : Option (Nat × Int) :=
  let (n, d) := ratio m x
  let e := leadingPower n d - digits + 1
  let n' := n * tenPow (-e).toNat
  let d' := d * tenPow e.toNat
  let low := n' / d'
  let near := Rounding.halfEven.quotient n' d'
  let far := if near = low then low + 1 else low
  if readsBack m x near e then some (near, e)
  else if readsBack m x far e then some (far, e)
  else none

/-- The shortest digits of a positive double, as a number and its power of ten. Seventeen digits
always read back. -/
def shortest (m : Nat) (x : Int) : Nat × Int :=
  ((List.range 16).findSome? fun k => tryGrid m x (k + 1)).getD
    ((tryGrid m x 17).getD (0, 0))

/-- Digits as a positional number that shows its point. -/
def positional (digits : List Char) (point : Int) : List Char :=
  if point ≤ 0 then '0' :: '.' :: (List.replicate (-point).toNat '0' ++ digits)
  else if digits.length ≤ point.toNat then
    digits ++ List.replicate (point.toNat - digits.length) '0' ++ ['.', '0']
  else digits.take point.toNat ++ '.' :: digits.drop point.toNat

/-- Digits as one digit before the point and a power of ten of at least two digits. -/
def scientific (digits : List Char) (e : Int) : List Char :=
  let mark := if e < 0 then '-' else '+'
  let power := Text.digitsOfNat e.natAbs
  let power := if power.length < 2 then '0' :: power else power
  let tail := digits.drop 1
  digits.take 1 ++ (if tail.isEmpty then [] else '.' :: tail) ++ 'e' :: mark :: power

/-- Drops the zeros at the end of a digit list. -/
def dropTrailingZeros (digits : List Char) : List Char :=
  (digits.reverse.dropWhile (· == '0')).reverse

/-- The text of a double: its shortest digits, positional from `0.0001` up to `10 ^ 16`. -/
def chars : Binary64 → List Char
  | nan => "nan".toList
  | infinite s => (if s then ['-'] else []) ++ "inf".toList
  | finite s m x =>
    let sign := if s then ['-'] else []
    if m = 0 then sign ++ "0.0".toList
    else
      let (c, e) := shortest m x
      let digits := Text.digitsOfNat c
      let point := e + digits.length
      let digits := dropTrailingZeros digits
      if -4 < point ∧ point ≤ 16 then sign ++ positional digits point
      else sign ++ scientific digits (point - 1)

def text (x : Binary64) : String := String.ofList x.chars

end Assessment.Number.Binary64
