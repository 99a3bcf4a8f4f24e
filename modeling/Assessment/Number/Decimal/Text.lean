import Assessment.Number.Numeral
import Assessment.Number.Decimal

/-!
# The text of a decimal

The written form keeps sign, digits and exponent apart: positional while the exponent is not
positive and at most five zeros follow the point, and otherwise one digit before the point and a
power of ten. Reading also admits blanks around the number, digits of every script, separators
anywhere, infinities and not-a-number.
-/

namespace Assessment.Number.Decimal

open Assessment.Text

/-- The largest power of ten that the leading digit of a read decimal may stand at. -/
def maxAdjusted : Int := 999999999999999999

/-- The smallest exponent that a read decimal may have. -/
def minExponent : Int := -1999999999999999997

/-- A finite decimal whose exponent can be held. -/
def ofParts? (negative : Bool) (coefficient : Nat) (exponent : Int) : Option Decimal :=
  if minExponent ≤ exponent ∧ adjusted coefficient exponent ≤ maxAdjusted then
    some (.finite negative coefficient exponent)
  else none

/-- The digits that may follow a not-a-number. -/
def readPayload? (negative signaling : Bool) (cs : List Char) : Option Decimal :=
  if cs.all isDigit then some (.nan negative signaling (natOfDigits cs)) else none

/-- Infinities and not-a-number, in any case of letters. -/
def readSpecial? (cs : List Char) : Option Decimal :=
  let (negative, body) := splitSign cs
  match body.map Char.toLower with
  | ['i', 'n', 'f'] => some (.infinite negative)
  | ['i', 'n', 'f', 'i', 'n', 'i', 't', 'y'] => some (.infinite negative)
  | 'n' :: 'a' :: 'n' :: payload => readPayload? negative false payload
  | 's' :: 'n' :: 'a' :: 'n' :: payload => readPayload? negative true payload
  | _ => none

/-- Reads a decimal from characters that need no further cleaning. -/
def readPlain? (cs : List Char) : Option Decimal :=
  match Numeral.read? cs with
  | some n => ofParts? n.negative n.coefficient n.exponent
  | none => readSpecial? cs

def read? (s : String) : Option Decimal :=
  readPlain? (((trimChars s.toList).filter (· != '_')).map europeanDigit)

/-- The digits with a point after the first `place` of them, and zeros where digits are missing. -/
def placePoint (digits : List Char) (place : Int) : List Char :=
  if place ≤ 0 then '0' :: '.' :: (List.replicate (-place).toNat '0' ++ digits)
  else if digits.length ≤ place.toNat then
    digits ++ List.replicate (place.toNat - digits.length) '0'
  else digits.take place.toNat ++ '.' :: digits.drop place.toNat

def exponentMark (e : Int) : List Char :=
  'E' :: (if e < 0 then '-' else '+') :: digitsOfNat e.natAbs

/-- The characters of a finite decimal without its sign. -/
def magnitudeChars (coefficient : Nat) (exponent : Int) : List Char :=
  let digits := digitsOfNat coefficient
  let point := exponent + digits.length
  if exponent ≤ 0 ∧ -6 < point then placePoint digits point
  else placePoint digits 1 ++ exponentMark (point - 1)

def chars : Decimal → List Char
  | finite s c e => (if s then ['-'] else []) ++ magnitudeChars c e
  | infinite s => (if s then ['-'] else []) ++ "Infinity".toList
  | nan s signaling payload =>
    (if s then ['-'] else []) ++ (if signaling then ['s'] else []) ++ "NaN".toList ++
      (if payload = 0 then [] else digitsOfNat payload)

/-- The written form of a decimal as a text. -/
def text (d : Decimal) : String := String.ofList d.chars

end Assessment.Number.Decimal
