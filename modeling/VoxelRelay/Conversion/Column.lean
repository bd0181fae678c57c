import VoxelRelay.Conversion.Biomes
import VoxelRelay.Conversion.Blocks
import VoxelRelay.Conversion.Heightmap

/-!
# Converting columns

A column is converted section by section, from the bottom; its block entities
are listed in that order.  Two heightmaps are read off the result.
-/

namespace VoxelRelay

/-- A converted section. -/
structure TargetSection where
  blocks : Palette
  biomes : Palette
  /-- The number of cells that hold something other than air. -/
  nonAir : Nat
deriving DecidableEq, Repr, Inhabited

/-- A converted column. -/
structure TargetColumn where
  pos : ColumnPos
  sections : Array TargetSection
  heightmaps : Heightmaps
  entities : Array TargetEntity
deriving Inhabited

/-- The blocks of a converted column, the bottom section first. -/
def TargetColumn.palettes (column : TargetColumn) : Array Palette :=
  column.sections.map (·.blocks)

namespace Converter

/-- The height of the lowest cells of a section. -/
def baseY (minY : Int32) (slot : Nat) : Int32 := minY + .ofNat slot * 16

/-- Converts one section and lists its block entities. -/
def convertSection
    (converter : Converter)
    (column : Column)
    (minY : Int32)
    (slot : Nat)
    (content : Section) : TargetSection × Array TargetEntity :=
  let biomes := converter.table.convertBiomes content.biomes
  match content.layer? 0 with
  | none => (⟨.blocks air, biomes, 0⟩, #[])
  | some primary =>
      let visit := converter.visitCells column primary (baseY minY slot)
      let blocks :=
        match content.layer? 1 with
        | some overlay =>
            converter.table.waterlog primary overlay visit.blocks
        | none => visit.blocks
      (⟨blocks, biomes, visit.nonAir⟩, visit.entities)

/-- Converts a column of a world whose lowest blocks lie at `minY`. -/
def convert
    (converter : Converter)
    (column : Column)
    (minY : Int32) : TargetColumn :=
  let converted :=
    column.sections.mapIdx (converter.convertSection column minY)
  let sections := converted.map (·.1)
  { pos := column.pos
    sections := sections
    heightmaps := .ofSections converter.table (sections.map (·.blocks)) minY
    entities := converted.flatMap (·.2) }

/-- The remarks on the conversion of one section. -/
def sectionWarnings
    (converter : Converter)
    (column : Column)
    (minY : Int32)
    (slot : Nat)
    (content : Section) : List Warning :=
  let table := converter.table
  let blockWarnings :=
    match content.layer? 0 with
    | none => []
    | some primary =>
        let unmapped :=
          primary.ids.toList.filter fun id => (table.destination? id).isNone
        let overlayWarnings :=
          match content.layer? 1 with
          | some overlay =>
              table.waterlogWarnings primary overlay
                (converter.visitCells column primary (baseY minY slot)).blocks
          | none => []
        unmapped.map .unmappedBlock ++ overlayWarnings
  blockWarnings ++ table.biomeWarnings content.biomes

/-- The remarks on the conversion of a column. -/
def warnings
    (converter : Converter)
    (column : Column)
    (minY : Int32) : List Warning :=
  (column.sections.mapIdx
    (converter.sectionWarnings column minY)).toList.flatten

end Converter

end VoxelRelay
