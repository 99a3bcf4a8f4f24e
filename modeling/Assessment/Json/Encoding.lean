import Assessment.Json.Reader

/-!
# The encoding of JSON

Bytes that hold JSON begin with two ASCII characters, so the zeros among the first four bytes tell
the width of a unit and the order of its bytes. Halves of surrogate pairs may stand alone.
-/

namespace Assessment.Json

open Assessment.Text

/-- How characters are laid out in bytes. -/
inductive Encoding where
  | bytes
  /-- Units of two bytes, the larger one first or last. -/
  | pairs (largeFirst : Bool)
  /-- Units of four bytes, the larger ones first or last. -/
  | quads (largeFirst : Bool)
  deriving DecidableEq, Repr

def Encoding.ofBytes : List UInt8 → Encoding
  | a :: b :: c :: d :: _ =>
    if a = 0 then (if b = 0 then .quads true else .pairs true)
    else if b = 0 then (if c = 0 ∧ d = 0 then .quads false else .pairs false)
    else .bytes
  | [a, b] => if a = 0 then .pairs true else if b = 0 then .pairs false else .bytes
  | _ => .bytes

/-- The units of two bytes; nothing if a byte is left over. -/
def pairUnits? (largeFirst : Bool) : List UInt8 → Option (List Nat)
  | [] => some []
  | a :: b :: rest =>
    let unit := if largeFirst then a.toNat * 256 + b.toNat else b.toNat * 256 + a.toNat
    (pairUnits? largeFirst rest).map (unit :: ·)
  | _ => none

/-- The units of four bytes; nothing if bytes are left over. -/
def quadUnits? (largeFirst : Bool) : List UInt8 → Option (List Nat)
  | [] => some []
  | a :: b :: c :: d :: rest =>
    let digits := if largeFirst then [a, b, c, d] else [d, c, b, a]
    let unit := digits.foldl (fun n x => n * 256 + x.toNat) 0
    (quadUnits? largeFirst rest).map (unit :: ·)
  | _ => none

/-- The character of a number, which may be that of a surrogate. -/
def charOf? (n : Nat) : Option Char :=
  if 0xD800 ≤ n ∧ n < 0xE000 then some (ofSurrogate n)
  else if n < 0x110000 then some (Char.ofNat n)
  else none

/-- The characters of units of two bytes: two halves that follow each other are one character. -/
def joinPairs? : List Nat → Option (List Char)
  | [] => some []
  | high :: low :: rest =>
    if 0xD800 ≤ high ∧ high < 0xDC00 ∧ 0xDC00 ≤ low ∧ low < 0xE000 then
      (joinPairs? rest).map (ofSurrogates high low :: ·)
    else do
      let c ← charOf? high
      (joinPairs? (low :: rest)).map (c :: ·)
  | [n] => (charOf? n).map ([·])

def Encoding.decode? : Encoding → List UInt8 → Option (List Char)
  | bytes, bs => (String.fromUTF8? ⟨bs.toArray⟩).map String.toList
  | pairs largeFirst, bs => (pairUnits? largeFirst bs).bind joinPairs?
  | quads largeFirst, bs => (quadUnits? largeFirst bs).bind (List.mapM charOf?)

/-- The characters of bytes that hold JSON. -/
def chars? (bs : List UInt8) : Option (List Char) := (Encoding.ofBytes bs).decode? bs

/-- Reads bytes that hold one value and blanks around it. -/
def readBytes (room : Nat) (bs : List UInt8) : Except Misread Value := do
  let cs ← orMalformed (chars? bs)
  readChars room cs

end Assessment.Json
