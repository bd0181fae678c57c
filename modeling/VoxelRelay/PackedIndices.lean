/-!
# Packed index storage

A store of small numbers, all of one bit width, laid out in 64-bit words.  A
word holds `64 / width` entries, the first in its lowest bits; an entry never
straddles two words and the bits that no entry uses stay zero.  At width zero
nothing is stored and every entry reads as zero.

`toList` is the view through which the store is read as a plain list.
-/

namespace VoxelRelay

/-- Indices of `width` bits each, packed into words. -/
structure PackedIndices where
  width : Nat
  size : Nat
  words : Array UInt64
deriving DecidableEq, Repr, Inhabited

namespace PackedIndices

/-- The least supported width that tells `count` table entries apart. -/
def widthFor (count : Nat) : Nat :=
  if count ≤ 1 then 0
  else if count ≤ 4 then 2
  else if count ≤ 16 then 4
  else if count ≤ 256 then 8
  else 16

/-- Entries in one word. -/
@[inline]
def perWord (width : Nat) : Nat := 64 / width

/-- Words needed for `size` entries of `width` bits. -/
def wordCount (width size : Nat) : Nat :=
  if width = 0 then 0 else (size + perWord width - 1) / perWord width

/-- A store of `size` entries, all zero. -/
def zeroed (width size : Nat) : PackedIndices where
  width := width
  size := size
  words := Array.replicate (wordCount width size) 0

/-- The low `width` bits. -/
@[inline]
def mask (width : Nat) : UInt64 := (1 <<< width.toUInt64) - 1

/-- The word that holds entry `index`. -/
@[inline]
def wordOf (store : PackedIndices) (index : Nat) : Nat :=
  index / perWord store.width

/-- The place of the lowest bit of entry `index` in its word. -/
@[inline]
def shiftOf (store : PackedIndices) (index : Nat) : UInt64 :=
  (index % perWord store.width * store.width).toUInt64

/-- The entry at `index`. -/
@[inline]
def get (store : PackedIndices) (index : Nat) : UInt16 :=
  if store.width = 0 then 0
  else ((store.words.getD (store.wordOf index) 0 >>> store.shiftOf index)
    &&& mask store.width).toUInt16

/-- Overwrites the entry at `index`; at width zero there is nothing to write. -/
@[inline]
def set
    (store : PackedIndices)
    (index : Nat)
    (value : UInt16) : PackedIndices :=
  if store.width = 0 then store
  else
    let shift := store.shiftOf index
    let word := store.wordOf index
    { store with
      words := store.words.modify word fun old =>
        (old &&& ~~~(mask store.width <<< shift)) |||
          (value.toUInt64 <<< shift) }

/-- A store of the given entries; those past `size` are not written. -/
def ofFn (width size : Nat) (entry : Nat → UInt16) : PackedIndices :=
  Nat.fold size (fun index _ store => store.set index (entry index))
    (zeroed width size)

/-- Stores the same entries at another width. -/
def withWidth (store : PackedIndices) (width : Nat) : PackedIndices :=
  ofFn width store.size store.get

/-- All entries in order. -/
def toList (store : PackedIndices) : List UInt16 :=
  (List.range store.size).map store.get

@[simp]
theorem width_zeroed (width size : Nat) :
    (zeroed width size).width = width := rfl

@[simp]
theorem size_zeroed (width size : Nat) :
    (zeroed width size).size = size := rfl

@[simp]
theorem width_set
    (store : PackedIndices)
    (index : Nat)
    (value : UInt16) :
    (store.set index value).width = store.width := by
  unfold set
  split <;> rfl

@[simp]
theorem size_set
    (store : PackedIndices)
    (index : Nat)
    (value : UInt16) :
    (store.set index value).size = store.size := by
  unfold set
  split <;> rfl

end PackedIndices

end VoxelRelay
