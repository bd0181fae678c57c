/-!
# Slabs of light

A slab holds the light levels of one section, 4 bits each, two cells to a
byte: the cell of even number in the low half, that of odd number in the high
half.  Cells are numbered by layers from the bottom, then rows along `z`, then
`x`.  `get` is the view through which a slab is read.
-/

namespace VoxelRelay

/-- The brightest light level. -/
def maxLevel : Nat := 15

/-- Bytes in a slab. -/
def slabBytes : Nat := 2048

/-- The number of the cell at `(x, y, z)` of a section. -/
@[inline]
def cellIndex (x y z : Nat) : Nat := (y * 16 + z) * 16 + x

/-- The light levels of one section. -/
structure LightSlab where
  bytes : Vector UInt8 2048
deriving DecidableEq, Repr

namespace LightSlab

/-- A slab in which all levels are the same. -/
def uniform (level : Nat) : LightSlab :=
  ⟨Vector.replicate 2048 (level % 16 + level % 16 * 16).toUInt8⟩

/-- A slab without light. -/
def dark : LightSlab := uniform 0

/-- A slab at the brightest level. -/
def full : LightSlab := uniform maxLevel

instance : Inhabited LightSlab := ⟨dark⟩

/-- The level of a numbered cell; no light past the last one. -/
@[inline]
def get (slab : LightSlab) (index : Nat) : Nat :=
  if bound : index / 2 < 2048 then
    let byte : UInt8 := slab.bytes[index / 2]
    if index % 2 = 0 then (byte &&& 15).toNat else (byte >>> 4).toNat
  else 0

/-- Overwrites the level of a numbered cell, keeping its low 4 bits. -/
@[inline]
def set (slab : LightSlab) (index level : Nat) : LightSlab :=
  if bound : index / 2 < 2048 then
    let byte : UInt8 := slab.bytes[index / 2]
    let nibble : UInt8 := (level % 16).toUInt8
    let written : UInt8 :=
      if index % 2 = 0 then (byte &&& 0xf0) ||| nibble
      else (byte &&& 0x0f) ||| (nibble <<< (4 : UInt8))
    ⟨slab.bytes.set (index / 2) written⟩
  else slab

/-- The level at `(x, y, z)`. -/
def levelAt
    (slab : LightSlab)
    (x y z : Nat) : Nat := slab.get (cellIndex x y z)

/-- A slab from the level of each numbered cell. -/
def ofFn (level : Nat → Nat) : LightSlab :=
  ⟨Vector.ofFn fun place : Fin 2048 =>
    (level (2 * place) % 16 + level (2 * place + 1) % 16 * 16).toUInt8⟩

/-- Whether all levels of a slab are the same. -/
def isUniform (slab : LightSlab) : Bool := slab = uniform (slab.get 0)

/-- Whether a slab holds no light. -/
def isDark (slab : LightSlab) : Bool := slab.bytes.all (· == 0)

/-- The levels of all cells in order. -/
def toList (slab : LightSlab) : List Nat := (List.range 4096).map slab.get

/-- The number of cells that hold light. -/
def litCount (slab : LightSlab) : Nat := slab.toList.countP (· != 0)

/-- A slab in a few words. -/
def describe (slab : LightSlab) : String :=
  "LightArray \x7b lit: " ++ toString slab.litCount ++ " \x7d"

end LightSlab

end VoxelRelay
