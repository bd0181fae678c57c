import VoxelRelay.Column
import VoxelRelay.Conversion.Cell

/-!
# Converting the blocks of a section

The table of the primary layer is mapped entry by entry.  Then the cells are
visited one by one: those whose block owns a block entity at the destination
get one, from the record that the column holds there or else an empty one, and
a record may put another state into its cell.  Last, cells under water get
their waterlogged form.
-/

namespace VoxelRelay

/-- The tables that a column is converted by. -/
structure Converter where
  /-- How blocks and biomes are shown. -/
  table : MappingTable
  /-- Which blocks own block entities, and how their records are converted. -/
  entities : MappingTable

/--
The cells of a section in the order of visit: along `x`, then `z`, then
upwards.
-/
def visitOrder : List (Nat × Nat × Nat) :=
  (List.range 16).flatMap fun x =>
    (List.range 16).flatMap fun z =>
      (List.range 16).map fun y => (x, y, z)

/-- What the visit of the cells has found so far. -/
structure CellVisit where
  blocks : Palette
  entities : Array TargetEntity
  /-- The cells that held something other than air when they were visited. -/
  nonAir : Nat
deriving Inhabited

/-- What stays the same during the visit of a section's cells. -/
structure VisitPlan where
  converter : Converter
  column : Column
  primary : Palette
  /--
  For each entry of the primary table, the tag of a block that owns a block
  entity.
  -/
  owners : Array (Option String)
  /-- The height of the section's lowest cells. -/
  baseY : Int32

namespace VisitPlan

/-- The position of a cell in the world. -/
def position (plan : VisitPlan) (x y z : Nat) : BlockPos where
  x := plan.column.pos.x * 16 + .ofNat x
  y := plan.baseY + .ofNat y
  z := plan.column.pos.z * 16 + .ofNat z

/-- Adds the block entity of a cell whose block owns one. -/
def addEntity
    (plan : VisitPlan)
    (visit : CellVisit)
    (tag : String)
    (x y z : Nat) : CellVisit :=
  let pos := plan.position x y z
  match plan.column.entityAt? pos with
  | some record =>
      match plan.converter.entities.convertEntity?
          (plan.primary.idAt x y z) record with
      | some converted =>
          { visit with
            blocks :=
              match converted.stateOverride with
              | some state => visit.blocks.setIdAt x y z state
              | none => visit.blocks
            entities :=
              if converted.hasData then visit.entities.push converted
              else visit.entities }
      | none => visit
  | none =>
      match plan.converter.table.entityType? tag with
      | some typeId =>
          { visit with entities := visit.entities.push (.empty pos typeId) }
      | none => visit

/-- Visits one cell. -/
def visit
    (plan : VisitPlan)
    (visit : CellVisit)
    (cell : Nat × Nat × Nat) : CellVisit :=
  let (x, y, z) := cell
  let index := (visit.blocks.indexAt x y z).toNat
  let counted :=
    match visit.blocks.id? index with
    | some id =>
        if id = air then visit else { visit with nonAir := visit.nonAir + 1 }
    | none => visit
  match plan.owners[index]? with
  | some (some tag) => plan.addEntity counted tag x y z
  | _ => counted

end VisitPlan

namespace Converter

/-- The tag of a source block that owns a block entity at the destination. -/
def ownerTag? (converter : Converter) (source : UInt32) : Option String :=
  (converter.table.tag? source).filter converter.entities.ownsEntity

/-- Maps the primary layer and visits its cells. -/
def visitCells
    (converter : Converter)
    (column : Column)
    (primary : Palette)
    (baseY : Int32) : CellVisit :=
  let plan : VisitPlan := {
    converter := converter
    column := column
    primary := primary
    owners := primary.ids.map converter.ownerTag?
    baseY := baseY }
  visitOrder.foldl plan.visit
    { blocks := primary.mapIds converter.table.destinationOrAir, entities :=
        #[], nonAir := 0 }

end Converter

namespace MappingTable

/-- Whether an overlay block waterlogs a primary block. -/
def waterlogs (table : MappingTable) (primary overlay : UInt32) : Bool :=
  primary != table.sourceAir && overlay !=
    table.sourceAir && table.isWater overlay

/-- Gives one cell its waterlogged form if it lies under water. -/
def waterlogCell
    (table : MappingTable)
    (primary overlay : Palette)
    (blocks : Palette)
    (cell : Nat × Nat × Nat) : Palette :=
  let (x, y, z) := cell
  if table.waterlogs (primary.idAt x y z) (overlay.idAt x y z) then
    match table.waterlogged? (blocks.idAt x y z) with
    | some state => blocks.setIdAt x y z state
    | none => blocks
  else blocks

/-- Gives the cells under water their waterlogged form. -/
def waterlog
    (table : MappingTable)
    (primary overlay blocks : Palette) : Palette :=
  if overlay.single? = some table.sourceAir then blocks
  else visitOrder.foldl (table.waterlogCell primary overlay) blocks

/-- The remarks on one cell of an overlay. -/
def waterlogCellWarnings
    (table : MappingTable)
    (primary overlay blocks : Palette)
    (cell : Nat × Nat × Nat) : List Warning :=
  let (x, y, z) := cell
  let below := primary.idAt x y z
  let above := overlay.idAt x y z
  if below = table.sourceAir ∨ above = table.sourceAir then []
  else if table.isWater above then
    if (table.waterlogged? (blocks.idAt x y z)).isNone then
      [.noWaterloggedForm below] else []
  else [.overlayNotWater below above]

/--
The remarks on an overlay, given the blocks before any cell was waterlogged.
-/
def waterlogWarnings
    (table : MappingTable)
    (primary overlay blocks : Palette) : List Warning :=
  if overlay.single? = some table.sourceAir then []
  else visitOrder.flatMap (table.waterlogCellWarnings primary overlay blocks)

end MappingTable

end VoxelRelay
