import VoxelRelay.Json.Value
import VoxelRelay.Position

/-!
# Block entities

Some blocks carry a record beside their identifier: a chest its items, a sign
its text.  The source announces such a record at an absolute position with an
opaque payload.  The destination wants it packed relative to its column, with
a type number in place of the source's tag.
-/

namespace VoxelRelay

/-- A block entity as the source announces it. -/
structure SourceEntity where
  position : BlockPos
  data : Json
deriving Inhabited

/-- A block entity as the destination wants it. -/
structure TargetEntity where
  /--
  The place within the column, `x` in the high half of the byte and `z` in the
  low half.
  -/
  packedXZ : UInt8
  /-- The absolute height. -/
  y : Int16
  typeId : Int32
  data : Json
  /-- The block state to show in place of the mapped one. -/
  stateOverride : Option UInt32
deriving Inhabited

/-- Packs two coordinates within a section into one byte. -/
def packXZ (x z : Nat) : UInt8 :=
  (x % 16 * 16 + z % 16).toUInt8

/-- The packed place of a block within its column. -/
def BlockPos.packedXZ (pos : BlockPos) : UInt8 :=
  packXZ (localCoordinate pos.x) (localCoordinate pos.z)

namespace TargetEntity

/-- An entity without content at a position. -/
def empty (pos : BlockPos) (typeId : Int32) : TargetEntity where
  packedXZ := pos.packedXZ
  y := pos.y.toInt16
  typeId := typeId
  data := .emptyObject
  stateOverride := none

/--
Whether there is anything to send; a null payload means that there is not.
-/
def hasData (entity : TargetEntity) : Bool := !entity.data.isNull

end TargetEntity

end VoxelRelay
