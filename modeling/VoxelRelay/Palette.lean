import VoxelRelay.PackedIndices

/-!
# Paletted cubes

A palette gives every cell of a cube an identifier by way of a table: each
cell stores an index into the table of the identifiers in use.  While the
table has one entry no indices are stored and the whole cube reads as that
entry.

The table grows as new identifiers are written.  Once it has as many entries
as there are cells, the entries that no cell refers to are dropped before the
next one is added, so that indices keep their 16 bits.  `idAt` and `toList`
are the views through which a palette is read.
-/

namespace VoxelRelay

/-- Why a palette could not be built or changed. -/
inductive PaletteError where
  /-- An index that the table does not have. -/
  | indexOutOfRange (index size : Nat)
  /-- A number of cells that does not fill the cube. -/
  | cellCount (expected actual : Nat)
  /-- A table without entries. -/
  | emptyTable
deriving DecidableEq, Repr

/-- The wording of a palette error. -/
def PaletteError.message : PaletteError → String
  | indexOutOfRange index size =>
      "palette index " ++ toString index ++ " out of range (table has " ++
        toString size ++
        " entries)"
  | cellCount expected actual =>
      "expected " ++ toString expected ++ " cells, got " ++ toString actual
  | emptyTable => "palette id table is empty"

/--
A cube of `2 ^ edgeBits` cells a side, stored through a table of identifiers.
-/
structure Palette where
  edgeBits : Nat
  ids : Array UInt32
  indices : PackedIndices
deriving DecidableEq, Repr, Inhabited

namespace Palette

/-- The edge of a cube of blocks, as a power of two. -/
def blockEdgeBits : Nat := 4

/-- The edge of a cube of biomes, as a power of two. -/
def biomeEdgeBits : Nat := 2

/-- Cells in a cube of `2 ^ edgeBits` cells a side. -/
def cellCount (edgeBits : Nat) : Nat := 1 <<< (3 * edgeBits)

/-- A cube with one identifier everywhere. -/
def filled (edgeBits : Nat) (id : UInt32) : Palette where
  edgeBits := edgeBits
  ids := #[id]
  indices := .zeroed 0 (cellCount edgeBits)

/-- A cube of one block. -/
def blocks (id : UInt32) : Palette := filled blockEdgeBits id

/-- A cube of one biome. -/
def biomes (id : UInt32) : Palette := filled biomeEdgeBits id

/--
A cube from its table and the table index of each cell.  The cells are counted
first, then the table has to have an entry, then each index has to be one of
the table's.
-/
def ofIndices
    (edgeBits : Nat)
    (ids : Array UInt32)
    (cells : Array UInt16) : Except PaletteError Palette :=
  if cells.size ≠ cellCount edgeBits then
    .error (.cellCount (cellCount edgeBits) cells.size)
  else if ids.isEmpty then
    .error .emptyTable
  else
    match cells.find? (fun index => ids.size ≤ index.toNat) with
    | some index => .error (.indexOutOfRange index.toNat ids.size)
    | none => .ok {
        edgeBits := edgeBits
        ids := ids
        indices :=
          .ofFn (PackedIndices.widthFor ids.size) (cellCount edgeBits)
            (cells.getD · 0) }

/-- Cells along one edge. -/
def edge (palette : Palette) : Nat := 1 <<< palette.edgeBits

/-- The number of cells. -/
def size (palette : Palette) : Nat := palette.indices.size

/-- Bits that each cell takes; zero while one identifier fills the cube. -/
def width (palette : Palette) : Nat := palette.indices.width

/-- The identifier that fills the whole cube, if the palette is in that form. -/
def single? (palette : Palette) : Option UInt32 :=
  if palette.width = 0 then some (palette.ids.getD 0 0) else none

/--
The number of the cell at `(x, y, z)`: layers from the bottom, rows along `z`,
then `x`.
-/
@[inline]
def cell (palette : Palette) (x y z : Nat) : Nat :=
  (y * palette.edge + z) * palette.edge + x

/-- The table index of the cell at `(x, y, z)`. -/
@[inline]
def indexAt (palette : Palette) (x y z : Nat) : UInt16 :=
  palette.indices.get (palette.cell x y z)

/-- The identifier of a numbered cell. -/
@[inline]
def idAtCell (palette : Palette) (cell : Nat) : UInt32 :=
  palette.ids.getD (palette.indices.get cell).toNat 0

/-- The identifier of the cell at `(x, y, z)`. -/
@[inline]
def idAt (palette : Palette) (x y z : Nat) : UInt32 :=
  palette.idAtCell (palette.cell x y z)

/-- The table index of every cell, in cell order. -/
def indexList (palette : Palette) : List UInt16 :=
  palette.indices.toList

/-- The identifier of every cell, in cell order. -/
def toList (palette : Palette) : List UInt32 :=
  (List.range palette.size).map palette.idAtCell

/-- The table entry at `index`. -/
def id? (palette : Palette) (index : Nat) : Option UInt32 :=
  palette.ids[index]?

/-- Whether some table entry, used by a cell or not, satisfies a test. -/
def anyId (palette : Palette) (test : UInt32 → Bool) : Bool :=
  palette.ids.any test

/-! ## Changing a palette -/

/-- Marks the table entries that some cell refers to. -/
def usedEntries (palette : Palette) : Array Bool :=
  Nat.fold palette.size
    (fun cell _ used =>
      used.setIfInBounds (palette.indices.get cell).toNat true)
    (Array.replicate palette.ids.size false)

/--
Drops the table entries that no cell refers to and renumbers the rest in their
order.
-/
def compact (palette : Palette) : Palette :=
  let used := palette.usedEntries
  let (ids, renumbered) := Nat.fold palette.ids.size
    (fun old _ (kept : Array UInt32 × Array UInt16) =>
      if used.getD old false then
        (kept.1.push (palette.ids.getD old 0),
          kept.2.push kept.1.size.toUInt16)
      else (kept.1, kept.2.push 0))
    (#[], #[])
  { palette with
    ids := ids
    indices := .ofFn (PackedIndices.widthFor ids.size) palette.size
      fun cell => renumbered.getD (palette.indices.get cell).toNat 0 }

/-- Makes the indices wide enough for the table. -/
def widen (palette : Palette) : Palette :=
  let needed := PackedIndices.widthFor palette.ids.size
  if palette.width < needed then
    { palette with indices := palette.indices.withWidth needed }
  else palette

/-- Drops unused entries once the table has as many as the cube has cells. -/
def makeRoom (palette : Palette) : Palette :=
  if palette.size ≤ palette.ids.size then palette.compact else palette

/-- Adds an entry at the end of the table; no cell changes. -/
def appendId (palette : Palette) (id : UInt32) : Palette :=
  let roomy := palette.makeRoom
  { roomy with ids := roomy.ids.push id }.widen

/-- The index of the last table entry, in 16 bits. -/
def lastIndex (palette : Palette) : UInt16 :=
  (palette.ids.size - 1).toUInt16

/-- Adds an entry at the end of the table and says where it stands. -/
def addId (palette : Palette) (id : UInt32) : Palette × UInt16 :=
  let extended := palette.appendId id
  (extended, extended.lastIndex)

/--
Finds the first table entry for an identifier, adding one when there is none.
-/
def intern (palette : Palette) (id : UInt32) : Palette × UInt16 :=
  match palette.ids.findIdx? (· == id) with
  | some index => (palette, index.toUInt16)
  | none => palette.addId id

/-- Writes an identifier into a numbered cell. -/
def setIdAtCell (palette : Palette) (cell : Nat) (id : UInt32) : Palette :=
  let (interned, index) := palette.intern id
  { interned with indices := interned.indices.set cell index }

/-- Writes an identifier into the cell at `(x, y, z)`. -/
def setIdAt (palette : Palette) (x y z : Nat) (id : UInt32) : Palette :=
  palette.setIdAtCell (palette.cell x y z) id

/-- Writes an identifier into every cell between two corners, both included. -/
def fillBox
    (palette : Palette)
    (x₀ y₀ z₀ x₁ y₁ z₁ : Nat)
    (id : UInt32) : Palette :=
  let span (low high : Nat) : List Nat := List.range' low (high + 1 - low)
  (span y₀ y₁).foldl (fun palette y =>
    (span z₀ z₁).foldl (fun palette z =>
      (span x₀ x₁).foldl (fun palette x => palette.setIdAt x y z id) palette)
      palette) palette

/-- Replaces a table entry, and with it every cell that refers to it. -/
def setIdByIndex
    (palette : Palette)
    (index : Nat)
    (id : UInt32) : Except PaletteError Palette :=
  if index < palette.ids.size then
    .ok { palette with ids := palette.ids.setIfInBounds index id }
  else
    .error (.indexOutOfRange index palette.ids.size)

/-- Rewrites every table entry. -/
def mapIds (palette : Palette) (change : UInt32 → UInt32) : Palette :=
  { palette with ids := palette.ids.map change }

end Palette

end VoxelRelay
