/-!
The Mersenne Twister with 624 words of state, seeded by a list of words, and uniform draws below a
bound by rejection.
-/

namespace Mutant

structure Twister where
  words : Array UInt32
  /-- How many words of the current round have been drawn. -/
  drawn : Nat
deriving Repr

namespace Twister

def length : Nat := 624

def fillStep (words : Array UInt32) (index : Nat) : Array UInt32 :=
  let last : UInt32 := words.getD (index - 1) 0
  words.push ((1812433253 : UInt32) * (last ^^^ (last >>> 30)) + UInt32.ofNat index)

def fill (seed : UInt32) : Array UInt32 :=
  (List.range' 1 (length - 1)).foldl fillStep #[seed]

def advance (words : Array UInt32) (index : Nat) : Array UInt32 × Nat :=
  if index + 1 < length then (words, index + 1)
  else (words.setIfInBounds 0 (words.getD (length - 1) 0), 1)

def scramble (words : Array UInt32) (index : Nat) (factor : UInt32) : UInt32 :=
  let last : UInt32 := words.getD (index - 1) 0
  words.getD index 0 ^^^ ((last ^^^ (last >>> 30)) * factor)

/-- One step of mixing the key in; `turn` counts the steps. -/
def keyStep (key : Array UInt32) (state : Array UInt32 × Nat) (turn : Nat) :
    Array UInt32 × Nat :=
  let (words, index) := state
  let place := turn % key.size
  let mixed := scramble words index 1664525 + key.getD place 0 + UInt32.ofNat place
  advance (words.setIfInBounds index mixed) index

def finishStep (state : Array UInt32 × Nat) (_ : Nat) : Array UInt32 × Nat :=
  let (words, index) := state
  let mixed := scramble words index 1566083941 - UInt32.ofNat index
  advance (words.setIfInBounds index mixed) index

def ofKey (key : Array UInt32) : Twister :=
  let turns := max length key.size
  let keyed := (List.range turns).foldl (keyStep key) (fill 19650218, 1)
  let mixed := (List.range (length - 1)).foldl finishStep keyed
  ⟨mixed.1.setIfInBounds 0 0x80000000, length⟩

def wordsOf (value : Nat) : List UInt32 :=
  if value < 0x100000000 then [UInt32.ofNat value]
  else UInt32.ofNat (value % 0x100000000) :: wordsOf (value / 0x100000000)
termination_by value
decreasing_by omega

def ofSeed (seed : Int) : Twister :=
  ofKey (wordsOf seed.natAbs).toArray

def renewStep (words : Array UInt32) (index : Nat) : Array UInt32 :=
  let joined := (words.getD index 0 &&& 0x80000000) |||
    (words.getD ((index + 1) % length) 0 &&& 0x7FFFFFFF)
  let twist : UInt32 := if joined &&& 1 = 0 then 0 else 0x9908B0DF
  words.setIfInBounds index
    (words.getD ((index + 397) % length) 0 ^^^ (joined >>> 1) ^^^ twist)

/-- A fresh round of words when the current one is used up. -/
def renew (twister : Twister) : Twister :=
  if twister.drawn < length then twister
  else ⟨(List.range length).foldl renewStep twister.words, 0⟩

def temper (word : UInt32) : UInt32 :=
  let first := word ^^^ (word >>> 11)
  let second := first ^^^ ((first <<< 7) &&& 0x9D2C5680)
  let third := second ^^^ ((second <<< 15) &&& 0xEFC60000)
  third ^^^ (third >>> 18)

def draw (twister : Twister) : UInt32 × Twister :=
  let ready := twister.renew
  (temper (ready.words.getD ready.drawn 0), { ready with drawn := ready.drawn + 1 })

def drawBits (bits : Nat) (twister : Twister) : Nat × Twister :=
  let (word, rest) := twister.draw
  if bits ≤ 32 then
    (word.toNat >>> (32 - bits), rest)
  else
    let (upper, final) := drawBits (bits - 32) rest
    (word.toNat + upper * 0x100000000, final)
termination_by bits
decreasing_by omega

/-- Draws until a number is below the bound. At least every second number is, on average, so the
allowance is never used up. -/
def drawBelow : Nat → Nat → Twister → Nat
  | 0, _, _ => 0
  | allowance + 1, bound, twister =>
      let (value, rest) := drawBits (bound.log2 + 1) twister
      if value < bound then value else drawBelow allowance bound rest

def below (seed : Int) (bound : Nat) : Nat :=
  drawBelow 10000 bound (ofSeed seed)

end Twister

end Mutant
