import Assessment.Text.Blank
import Assessment.Text.Digit

/-!
# Written numbers

A numeral is a sign, decimal digits with at most one point, and an optional power of ten. Integers,
decimals and binary fractions are all read from numerals; they differ in what else they admit.
-/

namespace Assessment.Number

open Assessment.Text

/-- A number as it is written: `±digits · 10 ^ exponent`. -/
structure Numeral where
  negative : Bool
  digits : List Char
  exponent : Int
  deriving DecidableEq, Repr

def Numeral.coefficient (n : Numeral) : Nat := natOfDigits n.digits

/-- A leading sign and what follows it. -/
def splitSign : List Char → Bool × List Char
  | '-' :: rest => (true, rest)
  | '+' :: rest => (false, rest)
  | rest => (false, rest)

/-- A non-empty run of digits with an optional sign, and nothing after it. -/
def readSigned? (cs : List Char) : Option Int :=
  let (negative, digits) := splitSign cs
  if digits.isEmpty || !digits.all isDigit then none
  else
    let n : Int := natOfDigits digits
    some (if negative then -n else n)

/-- The power of ten that ends a numeral: nothing, or a mark and a signed number. -/
def readExponent? : List Char → Option Int
  | [] => some 0
  | c :: rest => if c = 'e' ∨ c = 'E' then readSigned? rest else none

/-- Reads digits with at most one point among them and an optional power of ten. -/
def Numeral.read? (cs : List Char) : Option Numeral :=
  let (negative, body) := splitSign cs
  let whole := body.takeWhile isDigit
  let afterWhole := body.dropWhile isDigit
  let (fraction, rest) :=
    match afterWhole with
    | '.' :: r => (r.takeWhile isDigit, r.dropWhile isDigit)
    | r => ([], r)
  if whole.isEmpty && fraction.isEmpty then none
  else (readExponent? rest).map fun e => ⟨negative, whole ++ fraction, e - fraction.length⟩

/-- The characters without the `_` that stand between two digits; nothing when another `_` is left. -/
def dropSeparators? : List Char → Option (List Char)
  | [] => some []
  | '_' :: _ => none
  | d :: '_' :: e :: rest =>
    if isDigit d && isDigit e then (dropSeparators? (e :: rest)).map (d :: ·) else none
  | c :: rest => (dropSeparators? rest).map (c :: ·)

/-- The longest integer that is read, in digits. -/
def maxIntegerDigits : Nat := 4300

/-- Reads an integer: blanks other than separators around it, a sign, digits of any script, and single
underscores between digits. -/
def readInteger? (s : String) : Option Int := do
  let cs ← dropSeparators? ((trimBy isSpacing s.toList).map europeanDigit)
  if cs.length ≤ maxIntegerDigits + 1 ∧ (splitSign cs).2.length ≤ maxIntegerDigits then
    readSigned? cs
  else none

end Assessment.Number
