import VoxelRelay.Light.Data
import VoxelRelay.Palette
import VoxelRelay.Position

/-!
# What light is computed from

The light of a column depends on the destination blocks of its sections and on
what is known of its four horizontal neighbors: their blocks, if they were
converted, and the light last stored for them.
-/

namespace VoxelRelay

/-- One value for each horizontal direction. -/
structure Sides (α : Type) where
  west : α
  east : α
  north : α
  south : α
deriving DecidableEq, Repr, Inhabited

namespace Sides

/-- The value in a direction. -/
@[inline]
def get
    {α : Type}
    (sides : Sides α) : Direction → α
  | .west => sides.west
  | .east => sides.east
  | .north => sides.north
  | .south => sides.south

/-- A value for each direction. -/
@[inline]
def ofFn {α : Type} (value : Direction → α) : Sides α :=
  ⟨value .west, value .east, value .north, value .south⟩

@[simp]
theorem get_ofFn
    {α : Type}
    (value : Direction → α)
    (direction : Direction) :
    (ofFn value).get direction = value direction := by
  cases direction <;> rfl

/-- Changes the value in every direction. -/
def map {α β : Type} (change : α → β) (sides : Sides α) : Sides β :=
  ofFn fun direction => change (sides.get direction)

end Sides

/-- What the light of one column is computed from. -/
structure LightInput where
  /-- Destination blocks, the bottom section first. -/
  sections : Array Palette
  /-- Destination blocks of the neighbors that were converted. -/
  neighborSections : Sides (Option (Array Palette))
  /-- The light last stored for each neighbor. -/
  neighborLight : Sides (Option ColumnLight)
deriving DecidableEq, Repr, Inhabited

namespace LightInput

/-- A column about whose neighbors nothing is known. -/
def isolated (sections : Array Palette) : LightInput where
  sections := sections
  neighborSections := .ofFn fun _ => none
  neighborLight := .ofFn fun _ => none

end LightInput

/--
The `(x, z)` of cell `a` along the face of a section that lies in a direction.
-/
@[inline]
def faceCell : Direction → Nat → Nat × Nat
  | .west, a => (0, a)
  | .east, a => (15, a)
  | .north, a => (a, 0)
  | .south, a => (a, 15)

end VoxelRelay
