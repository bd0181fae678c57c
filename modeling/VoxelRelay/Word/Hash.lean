/-!
# Word-wise hashing

A 64-bit hash that absorbs one 32-bit word at a time by the FNV-1a rule:
exclusive or with the word, then multiplication by the 64-bit FNV prime.  A hash
of a word list is a left fold, so equal word lists have equal hashes.
-/

namespace VoxelRelay

/-- The state of a word-wise hash. -/
structure WordHash where
  value : UInt64
deriving DecidableEq, Repr

namespace WordHash

/-- The hash of no words, the 64-bit FNV offset basis. -/
def empty : WordHash := ⟨0xcbf29ce484222325⟩

instance : Inhabited WordHash := ⟨empty⟩

/-- Absorbs one word. -/
@[inline]
def push (hash : WordHash) (word : UInt32) : WordHash :=
  ⟨(hash.value ^^^ word.toUInt64) * 0x100000001b3⟩

/-- Absorbs a list of words in order. -/
def pushAll (hash : WordHash) (words : List UInt32) : WordHash :=
  words.foldl push hash

/-- The hash of a list of words. -/
def ofWords (words : List UInt32) : WordHash :=
  empty.pushAll words

end WordHash

/-- A word in sixteen hexadecimal digits. -/
def hexText (word : UInt64) : String :=
  let digits := Nat.toDigits 16 word.toNat
  String.ofList (List.replicate (16 - digits.length) '0' ++ digits)

end VoxelRelay
