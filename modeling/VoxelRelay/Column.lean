import VoxelRelay.Entity.Basic
import VoxelRelay.Section

/-!
# Columns

A column is a stack of sections, the lowest first, with the block entities
that lie in it.  The sections past the declared number start out awaiting
their content.  At most one record is kept at a position; taking one out moves
the last record into its place.
-/

namespace VoxelRelay

/-- A stack of source sections. -/
structure Column where
  pos : ColumnPos
  sections : Array Section
  entities : Array SourceEntity
  /--
  The number of sections that the source declared to be there from the start.
  -/
  declared : Nat
deriving Inhabited

namespace Column

/--
A column of `count` sections, the first `declared` of which await nothing.
-/
def create (pos : ColumnPos) (count declared : Nat) : Column where
  pos := pos
  sections :=
    (Array.range count).map fun slot =>
      if slot < declared then .empty else .awaiting
  entities := #[]
  declared := min declared count

/-- A section by its place from the bottom. -/
def section?
    (column : Column)
    (slot : Nat) : Option Section := column.sections[slot]?

/-- Changes the section in a slot. -/
def modifySection
    (column : Column)
    (slot : Nat)
    (change : Section → Section) : Column :=
  { column with sections := column.sections.modify slot change }

/-- Replaces the section in a slot; nothing happens past the top. -/
def replaceSection
    (column : Column)
    (slot : Nat)
    (content : Section) : Column :=
  { column with sections := column.sections.setIfInBounds slot content }

/-- The block entity at a position. -/
def entityAt? (column : Column) (pos : BlockPos) : Option SourceEntity :=
  column.entities.find? (·.position == pos)

/--
Takes out the block entity at a position, moving the last one into its place.
-/
def removeEntityAt (column : Column) (pos : BlockPos) : Column :=
  match column.entities.findIdx? (·.position == pos),
      column.entities.back? with
  | some place, some last =>
      { column with
        entities := (column.entities.setIfInBounds place last).pop }
  | _, _ => column

/-- Takes out the block entity at a position and hands it over. -/
def takeEntityAt
    (column : Column)
    (pos : BlockPos) : Option SourceEntity × Column :=
  ((column.entities.findIdx? (·.position == pos)).bind (column.entities[·]?),
    column.removeEntityAt pos)

/-- Stores a block entity in place of one at the same position. -/
def putEntity (column : Column) (entity : SourceEntity) : Column :=
  let cleared := column.removeEntityAt entity.position
  { cleared with entities := cleared.entities.push entity }

end Column

end VoxelRelay
