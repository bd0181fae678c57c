import VoxelRelay.Mapping
import VoxelRelay.Palette

/-!
# Heightmaps

A heightmap holds, for each of the 256 columns of cells, the number of cells
up to and including the highest one of interest.  A column without such a cell
holds the height of the world's bottom.  Both heightmaps are found in one
search of each column of cells, from above.
-/

namespace VoxelRelay

/-- What the search of a column of cells, from above, has found so far. -/
structure Peaks where
  /-- The highest cell other than air. -/
  surface : Option Nat
  /-- The highest cell that stops movement. -/
  blocking : Option Nat
deriving DecidableEq, Repr, Inhabited

/--
Searches the lowest `count` cells above `base` until one is found that stops
movement.
-/
def Palette.findPeaks
    (palette : Palette)
    (stops : UInt32 → Bool)
    (x z base : Nat) : Nat → Peaks → Peaks
  | 0, peaks => peaks
  | y + 1, peaks =>
      let id := palette.idAt x y z
      if id = air then palette.findPeaks stops x z base y peaks
      else
        let peaks :=
          { peaks with surface := peaks.surface.or (some (base + y)) }
        if stops id then { peaks with blocking := some (base + y) }
        else palette.findPeaks stops x z base y peaks

/--
Searches the lowest `count` sections; those that hold nothing but air are
passed over.
-/
def findPeaks
    (sections : Array Palette)
    (stops : UInt32 → Bool)
    (x z : Nat) : Nat → Peaks → Peaks
  | 0, peaks => peaks
  | slot + 1, peaks =>
      let found :=
        match sections[slot]? with
        | some palette =>
            if palette.single? = some air then peaks
            else palette.findPeaks stops x z (slot * 16) 16 peaks
        | none => peaks
      if found.blocking.isSome then found
      else findPeaks sections stops x z slot found

/--
The height of a column of cells by its highest cell of interest, in 32 bits.
-/
def heightEntry (minY : Int32) : Option Nat → Int32
  | some index => .ofNat (index + 1)
  | none => minY

/-- What is found in all columns of cells, numbered `16 * z + x`. -/
def allPeaks
    (sections : Array Palette)
    (stops : UInt32 → Bool) : Array Peaks :=
  (Array.range 256).map fun place =>
    findPeaks sections stops (place % 16) (place / 16) sections.size
      ⟨none, none⟩

/-- The bits that tell the numbers below `count` apart. -/
def bitsFor (count : Nat) : Nat :=
  if count ≤ 1 then 0 else Nat.log2 (count - 1) + 1

/-- The heightmaps of a column. -/
structure Heightmaps where
  /-- Up to the highest cell other than air. -/
  worldSurface : Array Int
  /-- Up to the highest cell that stops movement. -/
  motionBlocking : Array Int
  /-- The bits of an entry when packed. -/
  bitsPerEntry : Nat
deriving DecidableEq, Repr, Inhabited

/-- The heightmaps of a stack of sections. -/
def Heightmaps.ofSections
    (table : MappingTable)
    (sections : Array Palette)
    (minY : Int32) : Heightmaps :=
  let peaks := allPeaks sections table.isMotionBlocking
  { worldSurface :=
      peaks.map fun found => (heightEntry minY found.surface).toInt
    motionBlocking :=
      peaks.map fun found => (heightEntry minY found.blocking).toInt
    bitsPerEntry := bitsFor (sections.size * 16 % UInt32.size + 1) }

end VoxelRelay
