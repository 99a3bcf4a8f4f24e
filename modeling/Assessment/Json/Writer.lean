import Assessment.Number.Shortest
import Assessment.Text.Quoted
import Assessment.Value

/-!
# Writing JSON

Values in plain form as one line of ASCII characters.
-/

namespace Assessment.Json

open Assessment.Text

def escapeUnit (n : Nat) : List Char := '\\' :: 'u' :: hexDigits 4 n

def writtenChar (c : Char) : List Char :=
  if c = '"' ∨ c = '\\' then ['\\', c]
  else if 0x20 ≤ c.toNat ∧ c.toNat < 0x7F then [c]
  else
    let n := codePoint c
    if n < 0x10000 then escapeUnit n
    else escapeUnit (0xD800 + (n - 0x10000) / 0x400) ++ escapeUnit (0xDC00 + (n - 0x10000) % 0x400)

def writtenText (s : String) : String :=
  String.ofList ('"' :: s.toList.flatMap writtenChar ++ ['"'])

def writtenFloat : Number.Binary64 → String
  | .nan => "NaN"
  | .infinite s => if s then "-Infinity" else "Infinity"
  | x => x.text

mutual

def write : Value → String
  | .null => "null"
  | .bool b => if b then "true" else "false"
  | .int n => toString n
  | .float x => writtenFloat x
  | .decimal d => writtenText d.text
  | .text s => writtenText s
  | .moment t => writtenText t.text
  | .date d => writtenText d.text
  | .list items => "[" ++ ", ".intercalate (writeItems items) ++ "]"
  | .object members => "\x7b" ++ ", ".intercalate (writeMembers members) ++ "\x7d"

def writeItems : List Value → List String
  | [] => []
  | v :: rest => write v :: writeItems rest

def writeMembers : List (String × Value) → List String
  | [] => []
  | (name, v) :: rest => (writtenText name ++ ": " ++ write v) :: writeMembers rest

end

end Assessment.Json
