import SiliconBench.Random.Seed

/-! # Stream — the random numbers of a seed

The generator is a linear congruence on 128 bits. Of each state the two halves
are folded into 64 bits, which are rotated by an amount that the top six bits
give. The state is a natural number below `2 ^ 128`. -/

namespace SiliconBench.Random

/-- The number of halves of a state: `2 ^ 64`. -/
def halfCount : Nat := 0x10000000000000000

/-- The number of states: `2 ^ 128`. -/
def period : Nat := 0x100000000000000000000000000000000

/-- What the top six bits of a state count: `2 ^ 122`. -/
def turnUnit : Nat := 0x4000000000000000000000000000000

/-- The factor of the congruence. -/
def factor : Nat := 0x2360ed051fc65da44385df649fccf645

/-- A generator: its state, the increment of its congruence, and the half of a
64-bit number that is not used up yet. -/
structure Stream where
  state : Nat
  increment : Nat
  spare : Option UInt32

namespace Stream

/-- The next state. -/
def advance (state increment : Nat) : Nat :=
  (state * factor + increment) % period

/-- The generator of a list of seed words. -/
def ofWords (ws : List UInt32) : Stream :=
  let out := (Pool.ofWords ws).draw 8
  let word (k : Nat) : Nat :=
    (out.getD (2 * k) 0).toNat + (out.getD (2 * k + 1) 0).toNat * wordCount
  let initial := word 0 * halfCount + word 1
  let sequence := word 2 * halfCount + word 3
  let increment := (2 * sequence + 1) % period
  let first := (advance 0 increment + initial) % period
  ⟨advance first increment, increment, none⟩

/-- The generator of a seed. -/
def ofSeed (seed : Value) : Result Value Stream := do
  return ofWords (← seedWords seed)

/-- The next 64 bits. -/
def next64 (s : Stream) : UInt64 × Stream :=
  let state := advance s.state s.increment
  let folded := UInt64.ofNat (state / halfCount) ^^^ UInt64.ofNat (state % halfCount)
  let turn := UInt64.ofNat (state / turnUnit)
  ((folded >>> turn) ||| (folded <<< ((64 - turn) % 64)), { s with state })

/-- The next 32 bits: the low half of the next 64, and then the high half. -/
def next32 (s : Stream) : UInt32 × Stream :=
  match s.spare with
  | some high => (high, { s with spare := none })
  | none =>
    let (x, s) := s.next64
    (x.toUInt32, { s with spare := some (x >>> 32).toUInt32 })

/-- The next double from 0 up to 1, a multiple of `2 ^ -53`. -/
def nextUnit (s : Stream) : Float × Stream :=
  let (x, s) := s.next64
  ((x >>> 11).toFloat * (1.0 / 9007199254740992.0), s)

/-- The next `count` doubles from `low` up to `high`. -/
def uniform (low high : Float) : Nat → Stream → List Float × Stream
  | 0, s => ([], s)
  | count + 1, s =>
    let (x, s) := s.nextUnit
    let (rest, s) := uniform low high count s
    ((low + (high - low) * x) :: rest, s)

/-- The next whole number below `bound`, at most `fuel` times drawn again. A draw
whose low half falls into the first `2 ^ 32 mod bound` would favour small
numbers and is thrown away. -/
def below (bound : Nat) : Nat → Stream → Nat × Stream
  | 0, s => (0, s)
  | fuel + 1, s =>
    let (x, s) := s.next32
    let m := x.toNat * bound
    if m % wordCount < (wordCount - bound) % bound then below bound fuel s else (m / wordCount, s)

/-- How often a draw is repeated at the most. -/
def retries : Nat := 64

/-- The next `count` whole numbers below `bound`. -/
def integers (bound : Nat) : Nat → Stream → List Nat × Stream
  | 0, s => ([], s)
  | count + 1, s =>
    let (x, s) := below bound retries s
    let (rest, s) := integers bound count s
    (x :: rest, s)

end Stream

end SiliconBench.Random
