import SiliconBench.Scalar.Setting

/-! # Seed — from a seed to the state of a generator

A seed is a natural number of any size, or a list of them. Its 32-bit words are
stirred into a pool of four words, so that every word of the seed reaches every
word of the pool, and the pool is then drawn out into as many words as a
generator wants. All arithmetic is on 32-bit words and wraps. -/

namespace SiliconBench.Random

/-- The number of 32-bit words: `2 ^ 32`. -/
def wordCount : Nat := 0x100000000

/-- The 32-bit words of a natural number, the least significant first, at most
`fuel` of them. -/
def wordsFrom : Nat → Nat → List UInt32
  | 0, _ => []
  | fuel + 1, n =>
    if n < wordCount then [UInt32.ofNat n]
    else UInt32.ofNat (n % wordCount) :: wordsFrom fuel (n / wordCount)

/-- The 32-bit words of a natural number; zero has one. -/
def wordsOf (n : Nat) : List UInt32 :=
  wordsFrom (n.log2 / 32 + 1) n

mutual

/-- The words of a seed. -/
def seedWords : Value → Result Value (List UInt32)
  | .whole n => if n < 0 then .error (.badValue .negativeSeed) else .ok (wordsOf n.toNat)
  | .bool b => .ok [if b then 1 else 0]
  | .list items => seedListWords items
  | _ => .error .wrongKind

/-- The words of a list of seeds, one after the other. -/
def seedListWords : List Value → Result Value (List UInt32)
  | [] => .ok []
  | v :: rest => do return (← seedWords v) ++ (← seedListWords rest)

end

/-- Constants of the stirring. -/
def hashStart : UInt32 := 0x43b0d7e5
def hashFactor : UInt32 := 0x931e8875
def drawStart : UInt32 := 0x8b51f9dd
def drawFactor : UInt32 := 0x58f38ded
def mixLeft : UInt32 := 0xca01f9dd
def mixRight : UInt32 := 0x4973f715

/-- The pool and the running constant of the hash. -/
structure Pool where
  words : List UInt32
  hash : UInt32

namespace Pool

/-- The hash of a word, and the constant for the next one. -/
def hashed (h v : UInt32) : UInt32 × UInt32 :=
  let x := v ^^^ h
  let h := h * hashFactor
  let x := x * h
  (x ^^^ (x >>> 16), h)

/-- Two words mixed into one. -/
def mixed (x y : UInt32) : UInt32 :=
  let r := x * mixLeft - y * mixRight
  r ^^^ (r >>> 16)

/-- Adds the hash of a word at the end of the pool. -/
def pour (p : Pool) (v : UInt32) : Pool :=
  let (x, h) := hashed p.hash v
  ⟨p.words ++ [x], h⟩

/-- Mixes the hash of a word into the word of the pool at `target`. -/
def stir (p : Pool) (target : Nat) (v : UInt32) : Pool :=
  let (x, h) := hashed p.hash v
  ⟨p.words.modify target fun w => mixed w x, h⟩

/-- Mixes the word at `source` into every other word. -/
def spread (p : Pool) (source : Nat) : Pool :=
  [0, 1, 2, 3].foldl
    (fun p target => if target = source then p else p.stir target (p.words.getD source 0)) p

/-- The pool of a seed. -/
def ofWords (ws : List UInt32) : Pool :=
  let first := (ws ++ [0, 0, 0, 0]).take 4
  let filled := first.foldl pour ⟨[], hashStart⟩
  let stirred := [0, 1, 2, 3].foldl spread filled
  (ws.drop 4).foldl (fun p w => [0, 1, 2, 3].foldl (fun p target => p.stir target w) p) stirred

/-- Draws words out of the pool, which is gone through again and again. -/
def drawFrom (words : List UInt32) : Nat → UInt32 → Nat → List UInt32
  | 0, _, _ => []
  | count + 1, g, i =>
    let x := words.getD (i % 4) 0 ^^^ g
    let g := g * drawFactor
    let x := x * g
    (x ^^^ (x >>> 16)) :: drawFrom words count g (i + 1)

/-- The first `count` words that the pool gives. -/
def draw (p : Pool) (count : Nat) : List UInt32 :=
  drawFrom p.words count drawStart 0

end Pool

end SiliconBench.Random
