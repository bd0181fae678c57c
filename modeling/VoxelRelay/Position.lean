import Std.Data.TreeMap

/-!
# Positions in the world

Blocks, sections (cubes of 16 blocks a side) and columns (stacks of sections)
are named by signed 32-bit coordinates.  A block belongs to the section whose
coordinates are the floor quotients of its own by 16, and sits in it at the
remainders.  A column position packs into one 64-bit key and is recovered from
it.

The orders on positions compare `x` first, then `y`, then `z`.
-/

namespace VoxelRelay

/-- Blocks along one edge of a section. -/
def sectionEdge : Nat := 16

/-- The coordinate of the section that holds the block coordinate `block`. -/
def sectionCoordinate (block : Int32) : Int32 :=
  .ofInt (block.toInt / 16)

/-- Where the block coordinate `block` lies within its section, below 16. -/
def localCoordinate (block : Int32) : Nat :=
  (block.toInt % 16).toNat

theorem localCoordinate_lt (block : Int32) : localCoordinate block < 16 := by
  unfold localCoordinate
  omega

/-! ## Directions -/

/--
The four horizontal directions, in the order in which neighbors are listed.
-/
inductive Direction where
  /-- Towards smaller `x`. -/
  | west
  /-- Towards larger `x`. -/
  | east
  /-- Towards smaller `z`. -/
  | north
  /-- Towards larger `z`. -/
  | south
deriving DecidableEq, Repr, Inhabited

namespace Direction

/-- All directions in listing order. -/
def all : List Direction := [west, east, north, south]

/-- The place of a direction in `all`. -/
def number : Direction → Nat
  | west => 0
  | east => 1
  | north => 2
  | south => 3

/-- The column offset `(dx, dz)` of one step in this direction. -/
def offset : Direction → Int32 × Int32
  | west => (-1, 0)
  | east => (1, 0)
  | north => (0, -1)
  | south => (0, 1)

/-- The direction that leads back. -/
def opposite : Direction → Direction
  | west => east
  | east => west
  | north => south
  | south => north

@[simp]
theorem opposite_opposite (direction : Direction) :
    direction.opposite.opposite = direction := by
  cases direction <;> rfl

theorem mem_all (direction : Direction) : direction ∈ all := by
  cases direction <;> decide

end Direction

/-! ## Columns -/

/-- The position of a column. -/
structure ColumnPos where
  x : Int32
  z : Int32
deriving DecidableEq, Repr, Inhabited

namespace ColumnPos

instance : Ord ColumnPos :=
  ⟨compareLex (compareOn ColumnPos.x) (compareOn ColumnPos.z)⟩

instance : Std.TransOrd ColumnPos :=
  inferInstanceAs
    (Std.TransCmp
      (compareLex (compareOn ColumnPos.x) (compareOn ColumnPos.z)))

instance : Std.LawfulEqOrd ColumnPos where
  eq_of_compare {left right} equal := by
    have equal :
        compareLex (compareOn ColumnPos.x) (compareOn ColumnPos.z)
          left right = .eq := equal
    simp only [compareLex_eq_eq, compareOn, Std.LawfulEqOrd.compare_eq_iff_eq]
      at equal
    cases left
    cases right
    simp_all

/--
Packs a column position into one word, `x` in the low half and `z` in the high
half.
-/
def key (pos : ColumnPos) : Int64 :=
  (pos.x.toUInt32.toUInt64 ||| (pos.z.toUInt32.toUInt64 <<< 32)).toInt64

/-- Reads back a column position from its key. -/
def ofKey (key : Int64) : ColumnPos :=
  ⟨key.toInt32, (key >>> 32).toInt32⟩

/-- The column that holds the block coordinates `x` and `z`. -/
def containing (x z : Int32) : ColumnPos :=
  ⟨sectionCoordinate x, sectionCoordinate z⟩

/--
The column that holds a point.  The coordinates are rounded down and saturate
at the ends of the 32-bit range; a coordinate that is not a number counts as
zero.
-/
def containingPoint (x z : Float) : ColumnPos :=
  containing x.floor.toInt32 z.floor.toInt32

/--
The next column in the given direction, wrapping around at the ends of the
coordinate range.
-/
def neighbor (pos : ColumnPos) (direction : Direction) : ColumnPos :=
  ⟨pos.x + direction.offset.1, pos.z + direction.offset.2⟩

/-- The four neighbors in listing order. -/
def neighbors (pos : ColumnPos) : List ColumnPos :=
  Direction.all.map pos.neighbor

/-- The larger of the two coordinate distances. -/
def distance (left right : ColumnPos) : Nat :=
  max (left.x.toInt - right.x.toInt).natAbs
    (left.z.toInt - right.z.toInt).natAbs

end ColumnPos

/-! ## Sections -/

/--
The position of a section; `y` is the block height divided by 16, rounded
down.
-/
structure SectionPos where
  x : Int32
  y : Int32
  z : Int32
deriving DecidableEq, Repr, Inhabited

namespace SectionPos

instance : Ord SectionPos :=
  ⟨compareLex (compareOn SectionPos.x)
    (compareLex (compareOn SectionPos.y) (compareOn SectionPos.z))⟩

instance : Std.TransOrd SectionPos :=
  inferInstanceAs (Std.TransCmp
    (compareLex (compareOn SectionPos.x)
      (compareLex (compareOn SectionPos.y) (compareOn SectionPos.z))))

instance : Std.LawfulEqOrd SectionPos where
  eq_of_compare {left right} equal := by
    have equal : compareLex (compareOn SectionPos.x)
        (compareLex (compareOn SectionPos.y) (compareOn SectionPos.z))
        left right = .eq := equal
    simp only [compareLex_eq_eq, compareOn, Std.LawfulEqOrd.compare_eq_iff_eq]
      at equal
    cases left
    cases right
    simp_all

/-- The column a section belongs to. -/
def column (pos : SectionPos) : ColumnPos := ⟨pos.x, pos.z⟩

end SectionPos

/-! ## Blocks -/

/-- The position of a block. -/
structure BlockPos where
  x : Int32
  y : Int32
  z : Int32
deriving DecidableEq, Repr, Inhabited

namespace BlockPos

instance : Ord BlockPos :=
  ⟨compareLex (compareOn BlockPos.x)
    (compareLex (compareOn BlockPos.y) (compareOn BlockPos.z))⟩

/-- The column that holds a block. -/
def column (pos : BlockPos) : ColumnPos := .containing pos.x pos.z

/-- The section that holds a block. -/
def sectionPos (pos : BlockPos) : SectionPos :=
  ⟨sectionCoordinate pos.x, sectionCoordinate pos.y, sectionCoordinate pos.z⟩

/-- The coordinates of a block within its section, each below 16. -/
def inSection (pos : BlockPos) : Nat × Nat × Nat :=
  (localCoordinate pos.x, localCoordinate pos.y, localCoordinate pos.z)

end BlockPos

end VoxelRelay
