import VoxelRelay.Conversion.Column
import VoxelRelay.Light.Payload

/-!
# Messages

What a store tells the destination client and asks of the source server.
-/

namespace VoxelRelay

/-- The place of a requested section relative to the base of its batch. -/
structure SectionOffset where
  dx : Int32
  y : Int32
  dz : Int32
deriving DecidableEq, Repr, Inhabited

/-- A batch of requested sections. -/
structure SectionRequest where
  base : SectionPos
  offsets : List SectionOffset
deriving DecidableEq, Repr, Inhabited

namespace SectionRequest

/-- The offset of a section from a base column. -/
def offsetFrom (base pos : SectionPos) : SectionOffset :=
  ⟨pos.x - base.x, pos.y, pos.z - base.z⟩

/-- The batch that asks for the given sections. -/
def ofPositions
    (base : SectionPos)
    (positions : List SectionPos) : SectionRequest :=
  ⟨base, positions.map (offsetFrom base)⟩

/-- The sections that a batch asks for. -/
def positions (request : SectionRequest) : List SectionPos :=
  request.offsets.map fun offset =>
    ⟨request.base.x + offset.dx, offset.y, request.base.z + offset.dz⟩

end SectionRequest

/-- What objects at the client hang on. -/
inductive Anchor where
  | block (pos : BlockPos)
  | column (pos : ColumnPos)
deriving DecidableEq, Repr

/-- A message of a store. -/
inductive Message where
  /-- A converted column with its light. -/
  | column (column : TargetColumn) (light : LightPayload)
  /-- New light for a column that was sent. -/
  | light (pos : ColumnPos) (light : LightPayload)
  /-- A column to forget. -/
  | forget (pos : ColumnPos)
  /-- Sections that are wanted. -/
  | request (batch : SectionRequest)
  /-- A new center of the window. -/
  | center (pos : ColumnPos)
  /-- Objects to remove with what they hang on. -/
  | detach (anchor : Anchor)

end VoxelRelay
