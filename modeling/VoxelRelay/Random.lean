/-!
# Random numbers

A generator turns a seed into a sequence of 64-bit words: its four words of
state are shifted and mixed in every step, and start as four words drawn from
the seed by a simpler mixing.  From the words come numbers below a bound, each
equally likely.
-/

namespace VoxelRelay

/-- The state of a generator. -/
structure Generator where
  a : UInt64
  b : UInt64
  c : UInt64
  d : UInt64
deriving DecidableEq, Repr

namespace Generator

/-- Mixes the bits of a word. -/
def mix (word : UInt64) : UInt64 :=
  let word := (word ^^^ (word >>> 30)) * 0xbf58476d1ce4e5b9
  let word := (word ^^^ (word >>> 27)) * 0x94d049bb133111eb
  word ^^^ (word >>> 31)

/-- The word drawn from a seed in the given step, counted from one. -/
def seedWord (seed step : UInt64) : UInt64 :=
  mix (seed + step * 0x9e3779b97f4a7c15)

/-- The generator of a seed. -/
def ofSeed (seed : UInt64) : Generator :=
  ⟨seedWord seed 1, seedWord seed 2, seedWord seed 3, seedWord seed 4⟩

/-- Turns a word to the left. -/
def turn (word count : UInt64) : UInt64 :=
  (word <<< count) ||| (word >>> (64 - count))

/-- Takes the next word. -/
def word : StateM Generator UInt64 := do
  let g ← get
  let c := g.c ^^^ g.a
  let d := g.d ^^^ g.b
  set (⟨g.a ^^^ d, g.b ^^^ c, c ^^^ (g.b <<< 17), turn d 45⟩ : Generator)
  return turn (g.b * 5) 7 * 9

/-- The number of draws after which zero is taken for want of a good one. -/
def maxDraws : Nat := 4096

/--
Takes a number below a bound, from the upper `bits` bits of a word.  Their
product with the bound has the number in its upper half; the draw is repeated
while the lower half lies beyond the last whole multiple, so that each number
comes from equally many words.
-/
def drawBelow (bits bound : Nat) : Nat → StateM Generator Nat
  | 0 => return 0
  | draws + 1 => do
      let product := ((← word).toNat >>> (64 - bits)) * bound
      let zone := bound <<< (bits - (bound.log2 + 1))
      if product % (1 <<< bits) < zone then return product >>> bits
      else drawBelow bits bound draws

/-- Takes a number from one up to, but not including, another. -/
def between (low high : Nat) : StateM Generator Nat :=
  return low + (← drawBelow 64 (high - low) maxDraws)

/--
Takes a number from one up to, but not including, another, from half a word.
-/
def betweenNarrow (low high : Nat) : StateM Generator Nat :=
  return low + (← drawBelow 32 (high - low) maxDraws)

/-- Takes a truth value that holds in one of four cases. -/
def oneInFour : StateM Generator Bool := return (← word) < 0x4000000000000000

end Generator

end VoxelRelay
