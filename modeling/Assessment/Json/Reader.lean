import Assessment.KeyedList
import Assessment.Text.Digit
import Assessment.Text.Surrogate
import Assessment.Value

/-!
# Reading JSON

Integers are kept apart from numbers with a point or an exponent, which become doubles; the names
`NaN`, `Infinity` and `-Infinity` are numbers too. Of members with one name the last value counts,
at the place of the first. Lists and objects stand in each other as deep as there is room.
-/

namespace Assessment.Json

open Assessment.Number Assessment.Text

def isSpace (c : Char) : Bool := c == ' ' || c == '\t' || c == '\n' || c == '\r'

def skipSpace (cs : List Char) : List Char := cs.dropWhile isSpace

def hexValue? (c : Char) : Option Nat :=
  if isDigit c then some (c.toNat - 48)
  else if 'a' ≤ c ∧ c ≤ 'f' then some (c.toNat - 87)
  else if 'A' ≤ c ∧ c ≤ 'F' then some (c.toNat - 55)
  else none

def hex4? : List Char → Option (Nat × List Char)
  | a :: b :: c :: d :: rest => do
    let a ← hexValue? a
    let b ← hexValue? b
    let c ← hexValue? c
    let d ← hexValue? d
    some (((a * 16 + b) * 16 + c) * 16 + d, rest)
  | _ => none

def ofSurrogates (high low : Nat) : Char :=
  Char.ofNat (0x10000 + (high - 0xD800) * 0x400 + (low - 0xDC00))

/-- The character of an escape with a number, after its mark. -/
def unicodeEscape? (cs : List Char) : Option (Char × List Char) := do
  let (n, rest) ← hex4? cs
  if 0xD800 ≤ n ∧ n < 0xDC00 then
    match rest with
    | '\\' :: 'u' :: more =>
      match hex4? more with
      | some (low, rest') =>
        if 0xDC00 ≤ low ∧ low < 0xE000 then some (ofSurrogates n low, rest')
        else some (ofSurrogate n, rest)
      | none => some (ofSurrogate n, rest)
    | _ => some (ofSurrogate n, rest)
  else if 0xDC00 ≤ n ∧ n < 0xE000 then some (ofSurrogate n, rest)
  else some (Char.ofNat n, rest)

def simpleEscape? : Char → Option Char
  | '"' => some '"'
  | '\\' => some '\\'
  | '/' => some '/'
  | 'b' => some (Char.ofNat 8)
  | 'f' => some (Char.ofNat 12)
  | 'n' => some '\n'
  | 'r' => some '\r'
  | 't' => some '\t'
  | _ => none

/-- The characters of a text after its opening quote, and what follows the closing one. The fuel
bounds the number of characters. -/
def string? : Nat → List Char → Option (List Char × List Char)
  | 0, _ => none
  | _, [] => none
  | _ + 1, '"' :: rest => some ([], rest)
  | fuel + 1, '\\' :: 'u' :: rest => do
    let (c, rest) ← unicodeEscape? rest
    let (cs, rest) ← string? fuel rest
    some (c :: cs, rest)
  | fuel + 1, '\\' :: e :: rest => do
    let c ← simpleEscape? e
    let (cs, rest) ← string? fuel rest
    some (c :: cs, rest)
  | fuel + 1, c :: rest =>
    if c.toNat < 0x20 ∨ c = '\\' then none
    else do
      let (cs, rest) ← string? fuel rest
      some (c :: cs, rest)

/-- The digits of a number's integer part: a zero, or digits that begin with another one. -/
def wholeDigits : List Char → List Char
  | '0' :: _ => ['0']
  | cs => cs.takeWhile isDigit

/-- A point with the digits after it; without a digit the point is no part of the number. -/
def fractionDigits : List Char → List Char
  | '.' :: rest => rest.takeWhile isDigit
  | _ => []

/-- The characters of a power of ten, if one follows. -/
def exponentChars : List Char → List Char
  | c :: rest =>
    if c = 'e' ∨ c = 'E' then
      let sign := rest.takeWhile (fun c => c = '+' ∨ c = '-') |>.take 1
      let digits := (rest.drop sign.length).takeWhile isDigit
      if digits.isEmpty then [] else c :: sign ++ digits
    else []
  | [] => []

/-- A number at the start of the characters. -/
def number? (cs : List Char) : Option (Value × List Char) :=
  let sign := if cs.head? = some '-' then ['-'] else []
  let body := cs.drop sign.length
  let whole := wholeDigits body
  if whole.isEmpty then none
  else
    let rest := body.drop whole.length
    let fraction := fractionDigits rest
    let rest := if fraction.isEmpty then rest else rest.drop (fraction.length + 1)
    let power := exponentChars rest
    let rest := rest.drop power.length
    if fraction.isEmpty && power.isEmpty then
      let n : Int := natOfDigits whole
      if maxIntegerDigits < whole.length then none
      else some (.int (if sign.isEmpty then n else -n), rest)
    else
      let point := if fraction.isEmpty then [] else '.' :: fraction
      (Numeral.read? (sign ++ whole ++ point ++ power)).map fun n =>
        (.float (Binary64.ofScaled n.negative n.coefficient n.exponent), rest)

/-- Why characters are not read. -/
inductive Misread where
  | malformed
  /-- More lists and objects are open at once than there is room for. -/
  | tooDeep
  deriving DecidableEq, Repr

def orMalformed {α : Type} : Option α → Except Misread α
  | some a => .ok a
  | none => .error .malformed

/-- A value without parts at the start of the characters, and the rest. -/
def atom? (cs : List Char) : Option (Value × List Char) :=
  match cs with
  | 'n' :: 'u' :: 'l' :: 'l' :: rest => some (.null, rest)
  | 't' :: 'r' :: 'u' :: 'e' :: rest => some (.bool true, rest)
  | 'f' :: 'a' :: 'l' :: 's' :: 'e' :: rest => some (.bool false, rest)
  | 'N' :: 'a' :: 'N' :: rest => some (.float .nan, rest)
  | 'I' :: 'n' :: 'f' :: 'i' :: 'n' :: 'i' :: 't' :: 'y' :: rest =>
    some (.float (.infinite false), rest)
  | '-' :: 'I' :: 'n' :: 'f' :: 'i' :: 'n' :: 'i' :: 't' :: 'y' :: rest =>
    some (.float (.infinite true), rest)
  | '"' :: rest => do
    let (s, rest) ← string? (rest.length + 1) rest
    some (.text (String.ofList s), rest)
  | cs => number? cs

/-- One or more things with commas between them, up to a closing bracket. The fuel bounds their
number. -/
def series {α : Type} (one : List Char → Except Misread (α × List Char)) (close : Char) :
    Nat → List Char → Except Misread (List α × List Char)
  | 0, _ => .error .malformed
  | fuel + 1, cs => do
    let (a, rest) ← one cs
    match skipSpace rest with
    | [] => .error .malformed
    | c :: rest =>
      if c = ',' then do
        let (as, rest) ← series one close fuel (skipSpace rest)
        .ok (a :: as, rest)
      else if c = close then .ok ([a], rest)
      else .error .malformed

/-- What stands between two brackets, after the first of them. -/
def enclosed {α : Type} (one : List Char → Except Misread (α × List Char)) (close : Char)
    (cs : List Char) : Except Misread (List α × List Char) :=
  let cs := skipSpace cs
  if cs.head? = some close then .ok ([], cs.tail) else series one close (cs.length + 1) cs

/-- The name of a member, up to where its value begins. -/
def memberName? : List Char → Option (String × List Char)
  | '"' :: rest => do
    let (name, rest) ← string? (rest.length + 1) rest
    match skipSpace rest with
    | ':' :: rest => some (String.ofList name, skipSpace rest)
    | _ => none
  | _ => none

/-- A member of an object, whose value is read as given. -/
def member (one : List Char → Except Misread (Value × List Char)) (cs : List Char) :
    Except Misread ((String × Value) × List Char) := do
  let (name, rest) ← orMalformed (memberName? cs)
  let (v, rest) ← one rest
  .ok ((name, v), rest)

/-- A value at the start of the characters, and the rest. The room bounds how many lists and objects
are open at once. -/
def value : Nat → List Char → Except Misread (Value × List Char)
  | 0, '[' :: _ => .error .tooDeep
  | 0, '\x7b' :: _ => .error .tooDeep
  | room + 1, '[' :: rest => do
    let (items, rest) ← enclosed (value room) ']' rest
    .ok (.list items, rest)
  | room + 1, '\x7b' :: rest => do
    let (members, rest) ← enclosed (member (value room)) '\x7d' rest
    .ok (.object (KeyedList.ofList members), rest)
  | _, cs => orMalformed (atom? cs)

/-- Characters after a byte order mark, if there is one. -/
def withoutMark (cs : List Char) : List Char :=
  if cs.head? = some (Char.ofNat 0xFEFF) then cs.tail else cs

/-- Reads characters that hold one value and blanks around it. -/
def readChars (room : Nat) (cs : List Char) : Except Misread Value :=
  match value room (skipSpace (withoutMark cs)) with
  | .ok (v, rest) => if (skipSpace rest).isEmpty then .ok v else .error .malformed
  | .error m => .error m

/-- Reads a text that holds one value and blanks around it, however deep it is. -/
def read? (s : String) : Option Value := (readChars s.length s.toList).toOption

end Assessment.Json
