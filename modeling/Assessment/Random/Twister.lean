import Assessment.Random.Sha512

/-!
# The Mersenne Twister

A generator of 32-bit words with a state of 624 words, seeded from a text: the number whose bytes
are the text followed by its SHA-512 digest.
-/

namespace Assessment.Random

/-- The words of the state and the position of the next one to be given out. -/
structure Twister where
  words : Array UInt32
  position : Nat

namespace Twister

def size : Nat := 624

/-- The state that a single word spreads into. -/
def spread (seed : UInt32) : Array UInt32 :=
  (List.range (size - 1)).foldl
    (fun w i =>
      let last := w.getD i 0
      w.push ((last ^^^ (last >>> 30)) * 1812433253 + UInt32.ofNat (i + 1)))
    #[seed]

/-- Mixes the word before position `i` into the word at `i`, and adds. -/
def stir (w : Array UInt32) (i : Nat) (factor addend : UInt32) : Array UInt32 :=
  let last := w.getD (i - 1) 0
  w.setIfInBounds i ((w.getD i 0 ^^^ ((last ^^^ (last >>> 30)) * factor)) + addend)

/-- The position after `i`; past the end the last word also becomes the first. -/
def wrap (w : Array UInt32) (i : Nat) : Array UInt32 × Nat :=
  if size ≤ i + 1 then (w.setIfInBounds 0 (w.getD (size - 1) 0), 1) else (w, i + 1)

/-- Stirs the key into the state, word after word. -/
def stirKey (key : Array UInt32) : Nat → Array UInt32 → Nat → Nat → Array UInt32 × Nat
  | 0, w, i, _ => (w, i)
  | steps + 1, w, i, j =>
    let w := stir w i 1664525 (key.getD j 0 + UInt32.ofNat j)
    let (w, i) := wrap w i
    stirKey key steps w i (if key.size ≤ j + 1 then 0 else j + 1)

/-- Stirs the positions into the state. -/
def stirPositions : Nat → Array UInt32 → Nat → Array UInt32
  | 0, w, _ => w
  | steps + 1, w, i =>
    let w := stir w i 1566083941 (0 - UInt32.ofNat i)
    let (w, i) := wrap w i
    stirPositions steps w i

/-- The 32-bit words of a number, the lowest first. -/
def keyWords (n : Nat) : Array UInt32 :=
  let count := max 1 ((Nat.log2 n) / 32 + 1)
  (Array.range count).map fun i => UInt32.ofNat (n >>> (32 * i))

def ofNat (n : Nat) : Twister :=
  let key := keyWords n
  let (w, i) := stirKey key (max size key.size) (spread 19650218) 1 0
  ⟨(stirPositions (size - 1) w i).setIfInBounds 0 0x80000000, size⟩

def ofText (seed : String) : Twister :=
  let bytes := seed.toUTF8.toList
  let prefixed := bytes.foldl (fun n b => n * 256 + b.toNat) 0
  ofNat (prefixed * Number.twoPow 512 + Sha512.digest bytes)

/-- One word of the next state, from three words of the present one. -/
def twist (upper lower far : UInt32) : UInt32 :=
  let y := (upper &&& 0x80000000) ||| (lower &&& 0x7fffffff)
  far ^^^ (y >>> 1) ^^^ (if y &&& 1 = 0 then 0 else 0x9908b0df)

def refill (w : Array UInt32) : Array UInt32 :=
  (List.range size).foldl
    (fun w i =>
      w.setIfInBounds i
        (twist (w.getD i 0) (w.getD ((i + 1) % size) 0) (w.getD ((i + 397) % size) 0)))
    w

/-- Evens out the bits of a word. -/
def temper (y : UInt32) : UInt32 :=
  let y := y ^^^ (y >>> 11)
  let y := y ^^^ ((y <<< 7) &&& 0x9d2c5680)
  let y := y ^^^ ((y <<< 15) &&& 0xefc60000)
  y ^^^ (y >>> 18)

def next (g : Twister) : UInt32 × Twister :=
  let g := if size ≤ g.position then ⟨refill g.words, 0⟩ else g
  (temper (g.words.getD g.position 0), { g with position := g.position + 1 })

/-- How many draws may fall outside the wanted range before a remainder is taken instead. At least
half of all draws fall inside. -/
def maxDraws : Nat := 4096

/-- The first of the next words whose leading `bits` bits are a number below `n`. -/
def drawBelow (n bits : Nat) : Nat → Twister → Nat × Twister
  | 0, g => (g.next.1.toNat % n, g.next.2)
  | draws + 1, g =>
    let (w, g) := g.next
    let r := w.toNat / Number.twoPow (32 - bits)
    if r < n then (r, g) else drawBelow n bits draws g

def below (n : Nat) (g : Twister) : Nat × Twister :=
  drawBelow n (Nat.log2 n + 1) maxDraws g

end Twister

end Assessment.Random
