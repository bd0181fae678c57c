import VoxelRelay.Proofs.ListedEntities
import VoxelRelay.Proofs.WorldBounds

/-!
# Addresses of cells

A cell of a world has an address: its column, the slot of its section, and its
place in the section.  Its coordinates follow from the address by multiplying
and adding, and the address from the coordinates by floor quotients and
remainders.  The first is what conversion does and the second what a store does,
both in numbers of 32 bits.  They are inverse to each other wherever the
coordinates are numbers of 32 bits and the bottom of the world lies between two
sections, also below zero: `lies_iff` for one cell and one position, and
`positions_of_addresses` for all of them.
-/

namespace VoxelRelay

/-- A cell of a world. -/
structure CellAddress where
  column : ColumnPos
  /-- The place of its section in the column, from the bottom. -/
  slot : Nat
  place : Place
deriving DecidableEq, Repr

/-- An integer is a number of 32 bits. -/
def IsCoordinate (number : Int) : Prop := -2 ^ 31 ≤ number ∧ number < 2 ^ 31

instance (number : Int) : Decidable (IsCoordinate number) :=
  inferInstanceAs (Decidable (_ ∧ _))

namespace CellAddress

/-- The coordinate of a cell along `x`. -/
def x (address : CellAddress) : Int :=
  address.column.x.toInt * 16 + address.place.1

/-- The height of a cell in a world whose lowest blocks lie at `minY`. -/
def y (address : CellAddress) (minY : Int32) : Int :=
  minY.toInt + address.slot * 16 + address.place.2.1

/-- The coordinate of a cell along `z`. -/
def z (address : CellAddress) : Int :=
  address.column.z.toInt * 16 + address.place.2.2

/-- The place of a cell lies in its section. -/
def Inside (address : CellAddress) : Prop :=
  address.place.1 < 16 ∧ address.place.2.1 < 16 ∧ address.place.2.2 < 16

/-- The coordinates of a cell are numbers of 32 bits. -/
structure Fits (address : CellAddress) (minY : Int32) : Prop where
  inside : address.Inside
  x : IsCoordinate address.x
  y : IsCoordinate (address.y minY)
  z : IsCoordinate address.z

/-- A cell lies at a position. -/
structure Lies
    (address : CellAddress)
    (minY : Int32)
    (pos : BlockPos) : Prop where
  inside : address.Inside
  x : pos.x.toInt = address.x
  y : pos.y.toInt = address.y minY
  z : pos.z.toInt = address.z

/-- Quotients and remainders of a position lead to a cell. -/
structure IsFound
    (address : CellAddress)
    (minY : Int32)
    (pos : BlockPos) : Prop where
  column : pos.column = address.column
  slot : (pos.sectionPos.y - sectionCoordinate minY).toInt = address.slot
  place : pos.inSection = address.place

variable {address : CellAddress} {minY : Int32} {pos : BlockPos}

/-! ## One coordinate -/

/--
A coordinate is a multiple of 16 and a rest exactly if these are its quotient
and remainder.
-/
theorem toInt_eq_iff
    {block quotient : Int32}
    {rest : Nat}
    (small : rest < 16) :
    block.toInt = quotient.toInt * 16 + rest ↔
      sectionCoordinate block = quotient ∧ localCoordinate block = rest := by
  rw [← Int32.toInt_inj, toInt_sectionCoordinate, localCoordinate]
  omega

/--
The quotients of two coordinates are never too far apart to be subtracted.
-/
theorem toInt_sectionCoordinate_sub (block bottom : Int32) :
    (sectionCoordinate block - sectionCoordinate bottom).toInt =
      block.toInt / 16 - bottom.toInt / 16 := by
  have least := block.le_toInt
  have most := block.toInt_lt
  have bottomLeast := bottom.le_toInt
  have bottomMost := bottom.toInt_lt
  rw [Int32.toInt_sub, toInt_sectionCoordinate, toInt_sectionCoordinate,
    Int.bmod_eq_of_le (by omega) (by omega)]

/--
Above a bottom between two sections, heights are made up of slots and rests.
-/
theorem toInt_eq_slot_iff
    {block bottom : Int32}
    (multiple : bottom.toInt % 16 = 0)
    {slot rest : Nat}
    (small : rest < 16) :
    block.toInt = bottom.toInt + slot * 16 + rest ↔
      (sectionCoordinate block - sectionCoordinate bottom).toInt = slot ∧
        localCoordinate block = rest := by
  rw [toInt_sectionCoordinate_sub, localCoordinate]
  omega

/-! ## One cell -/

/-- A cell lies at a position exactly if it is the one that is found for it. -/
theorem lies_iff (multiple : minY.toInt % 16 = 0) :
    address.Lies minY pos ↔ address.IsFound minY pos := by
  constructor
  · rintro ⟨⟨xLt, yLt, zLt⟩, xEq, yEq, zEq⟩
    obtain ⟨west, x⟩ := (toInt_eq_iff xLt).1 xEq
    obtain ⟨slot, y⟩ := (toInt_eq_slot_iff multiple yLt).1 yEq
    obtain ⟨north, z⟩ := (toInt_eq_iff zLt).1 zEq
    refine ⟨?_, slot, ?_⟩
    · rw [BlockPos.column, ColumnPos.containing, west, north]
    · rw [BlockPos.inSection, x, y, z]
  · rintro ⟨column, slot, place⟩
    have inside : address.Inside := by
      rw [Inside, ← place]
      exact ⟨localCoordinate_lt _, localCoordinate_lt _, localCoordinate_lt _⟩
    have west := congrArg ColumnPos.x column
    have north := congrArg ColumnPos.z column
    have x := congrArg Prod.fst place
    have y := congrArg (fun place => place.2.1) place
    have z := congrArg (fun place => place.2.2) place
    exact ⟨inside, (toInt_eq_iff inside.1).2 ⟨west, x⟩,
      (toInt_eq_slot_iff multiple inside.2.1).2 ⟨slot, y⟩,
      (toInt_eq_iff inside.2.2).2 ⟨north, z⟩⟩

/-- At most one cell is found for a position. -/
theorem IsFound.eq
    {other : CellAddress}
    (found : address.IsFound minY pos)
    (otherFound : other.IsFound minY pos) :
    address = other := by
  obtain ⟨column, slot, place⟩ := address
  obtain ⟨column', slot', place'⟩ := other
  obtain ⟨rfl, counted, rfl⟩ := found
  obtain ⟨rfl, counted', rfl⟩ := otherFound
  obtain rfl := Int.ofNat.inj (counted.symm.trans counted')
  rfl

/-! ## All cells -/

/-- Conversion puts a cell where it lies. -/
theorem Fits.lies_position
    (fits : address.Fits minY)
    (converter : Converter)
    {column : Column}
    (home : column.pos = address.column)
    (primary : Palette) :
    address.Lies minY
      ((converter.planFor column minY address.slot primary).position
        address.place.1 address.place.2.1 address.place.2.2) := by
  rw [Converter.position_planFor, Column.cellPos, home]
  exact ⟨fits.inside, Int32.toInt_ofInt_of_le fits.x.1 fits.x.2,
    Int32.toInt_ofInt_of_le fits.y.1 fits.y.2,
    Int32.toInt_ofInt_of_le fits.z.1 fits.z.2⟩

end CellAddress

/--
Conversion puts each cell at a position, if its coordinates are numbers of 32
bits, and the cell that a store finds for the position is the same one.  Each
position within the heights of a world is that of exactly one cell.
-/
theorem positions_of_addresses
    {store : Store}
    (multiple : store.minY.toInt % 16 = 0) :
    (∀ address : CellAddress, address.Fits store.minY →
      ∀ (column : Column) (primary : Palette), column.pos = address.column →
        address.Lies store.minY
          ((store.converter.planFor column store.minY address.slot
              primary).position
            address.place.1 address.place.2.1 address.place.2.2)) ∧
    (∀ (address : CellAddress) (pos : BlockPos), address.Lies store.minY pos →
      address.IsFound store.minY pos ∧
        (address.slot < store.sectionCount →
          store.slot? pos.sectionPos.y = some address.slot)) ∧
    ∀ (pos : BlockPos) (slot : Nat),
      store.slot? pos.sectionPos.y = some slot →
      ∃ address : CellAddress, address.slot = slot ∧
        ∀ other : CellAddress, other.Lies store.minY pos ↔
          other = address := by
  refine ⟨fun address fits column primary home =>
    fits.lies_position _ home primary,
      fun address pos lies => ?_, fun pos slot inside => ?_⟩
  · have found := (CellAddress.lies_iff multiple).1 lies
    exact ⟨found, fun below => Store.slot?_eq_some_iff.2 ⟨found.slot, below⟩⟩
  · have found :
        CellAddress.IsFound ⟨pos.column, slot, pos.inSection⟩
          store.minY pos := ⟨rfl, (Store.slot?_eq_some_iff.1 inside).1, rfl⟩
    refine ⟨⟨pos.column, slot, pos.inSection⟩, rfl, fun other => ?_⟩
    rw [CellAddress.lies_iff multiple]
    exact ⟨fun otherFound => otherFound.eq found, fun same => same ▸ found⟩

/--
A cell beyond the origin to the west, in the lowest section of a world below
zero.
-/
def sunkenCell : CellAddress := ⟨⟨-1, 2⟩, 0, (15, 15, 1)⟩

theorem positions_of_addresses_sunkenCell :
    let store := Store.create .standard Store.bareConverter
    let pos : BlockPos := ⟨-1, -49, 33⟩
    store.minY = -64 ∧ store.minY.toInt % 16 = 0 ∧
    sunkenCell.Fits store.minY ∧
      (store.converter.planFor (.create ⟨-1, 2⟩ 24 0) store.minY 0
        (.blocks air)).position 15 15 1 =
        pos ∧
      sunkenCell.IsFound store.minY pos ∧
      store.slot? pos.sectionPos.y = some 0 ∧
      ∀ other : CellAddress, other.Lies store.minY pos ↔
        other = sunkenCell := by
  intro store pos
  have multiple : store.minY.toInt % 16 = 0 := by decide
  have fits : sunkenCell.Fits store.minY :=
    ⟨⟨by decide, by decide, by decide⟩, by decide, by decide, by decide⟩
  obtain ⟨placed, found, met⟩ := positions_of_addresses multiple
  have reached : (store.converter.planFor (.create ⟨-1, 2⟩ 24 0) store.minY 0
      (.blocks air)).position 15 15 1 = pos := by decide
  have lies : sunkenCell.Lies store.minY pos :=
    reached ▸ placed sunkenCell fits (.create ⟨-1, 2⟩ 24 0) (.blocks air) rfl
  obtain ⟨there, slot⟩ := found sunkenCell pos lies
  have inside := slot (by decide)
  obtain ⟨address, -, unique⟩ := met pos 0 inside
  refine ⟨rfl, multiple, fits, reached, there, inside, fun other => ?_⟩
  rw [unique other, (unique sunkenCell).1 lies]

end VoxelRelay
