/-!
# Lone surrogates

A text may hold one half of a surrogate pair without the other half. Such a half is no character; for
`0xD800 + k` stands the private character `0x10A000 + k`. A text with a lone half has no encoding.
-/

namespace Assessment.Text

def firstSurrogate : Nat := 0xD800

def surrogateCount : Nat := 0x800

/-- The first of the characters that stand for surrogates. -/
def firstStandIn : Nat := 0x10A000

def ofSurrogate (n : Nat) : Char := Char.ofNat (firstStandIn + (n - firstSurrogate))

def surrogate? (c : Char) : Option Nat :=
  if firstStandIn ≤ c.toNat ∧ c.toNat < firstStandIn + surrogateCount then
    some (firstSurrogate + (c.toNat - firstStandIn))
  else none

/-- The number of a character; for one that stands for a surrogate, the number of the surrogate. -/
def codePoint (c : Char) : Nat := (surrogate? c).getD c.toNat

def hasEncoding (s : String) : Bool := s.toList.all fun c => (surrogate? c).isNone

end Assessment.Text
