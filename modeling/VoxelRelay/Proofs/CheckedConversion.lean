import VoxelRelay.Proofs.CheckedAccess
import VoxelRelay.Proofs.Downsampling
import VoxelRelay.Proofs.Heights
import VoxelRelay.Proofs.ShapedColumns

/-!
# Conversion within its bounds

A section is converted cell by cell: its biomes are counted in small cubes, the
blocks are visited and waterlogged, and the heights are read off the result.
The checked forms make each access to a cell or a table entry only if it is
there.  They succeed on sections in shape: every layer and every palette that
comes of one is a cube of sixteen, whatever states the records put into it, and
biomes have an edge of sixteen or of four.
-/

namespace VoxelRelay

open Palette

/-! ## Biomes -/

/-- The biomes of one small cube of a source palette. -/
def Palette.smallCubeChecked
    (source : Palette)
    (cell : Nat × Nat × Nat) : Option (List UInt32) :=
  let (x, y, z) := cell
  countOrder.mapM fun (dx, dy, dz) =>
    source.idAtChecked (x * 4 + dx) (y * 4 + dy) (z * 4 + dz)

/-- Brings the biomes of a section down to the destination's size. -/
def Palette.downsampleChecked (source : Palette) : Option Palette := do
  match ← source.singleChecked with
  | some id => return .biomes id
  | none =>
      if source.edge = 4 then return source
      else
        countOrder.foldlM (fun small cell => do
          small.setIdAtChecked cell.1 cell.2.1 cell.2.2
            (majority (← source.smallCubeChecked cell)))
          (.biomes (← source.idAtChecked 0 0 0))

namespace MappingTable

/-- Converts the biomes of a section. -/
def convertBiomesChecked (table : MappingTable) :
    Option Palette → Option Palette
  | none => some (.biomes table.fallbackBiome)
  | some source =>
      source.downsampleChecked.map (·.mapIds table.biomeOrFallback)

/-- The remarks on biomes that are unknown. -/
def biomeWarningsChecked (table : MappingTable) :
    Option Palette → Option (List Warning)
  | none => some []
  | some source => source.downsampleChecked.map fun small =>
      (small.ids.toList.filter fun id => (table.biome? id).isNone).map
        .unmappedBiome

end MappingTable

namespace Palette

variable {source : Palette}

theorem WellFormed.smallCubeChecked_eq
    (wellFormed : source.WellFormed)
    (large : source.edge = 16)
    {place : Place}
    (member : place ∈ placesOf 4) :
    source.smallCubeChecked place = some (source.smallCube place) := by
  obtain ⟨x, y, z⟩ := place
  obtain ⟨xLt, yLt, zLt⟩ := mem_placesOf_iff.1 member
  rw [smallCubeChecked, smallCube]
  refine mapM_eq_some ?_
  rintro ⟨dx, dy, dz⟩ within
  obtain ⟨dxLt, dyLt, dzLt⟩ := mem_placesOf_iff.1 within
  apply wellFormed.idAtChecked_eq
  rw [Inside, large]
  dsimp only at *
  omega

/--
A small cube is written within its bounds, and its source is read within its
own.
-/
theorem WellFormed.downsampleChecked_eq
    (wellFormed : source.WellFormed)
    (edge : source.edge = 16 ∨ source.edge = 4) :
    source.downsampleChecked = some source.downsample := by
  rw [downsampleChecked, wellFormed.singleChecked_eq, Palette.downsample]
  cases source.single? with
  | some id => rfl
  | none =>
      dsimp only [Option.bind_eq_bind, Option.bind_some]
      split
      · rfl
      · next coarse =>
          have large := edge.resolve_right coarse
          have corner : source.idAtChecked 0 0 0 =
              some (source.idAt 0 0 0) := by
            apply wellFormed.idAtChecked_eq
            rw [Inside, large]
            decide
          rw [corner, Option.bind_some]
          refine (foldlM_eq_some
            (fun small => small.WellFormed ∧ small.edgeBits = biomeEdgeBits)
            ?_
            ⟨wellFormed_filled _ _, rfl⟩).1
          rintro small ⟨formed, bits⟩ place member
          have inside : small.Inside place := by
            rw [inside_iff_mem, Palette.edge, bits]
            exact member
          rw [wellFormed.smallCubeChecked_eq large member, Option.bind_some]
          exact ⟨formed.setIdAtChecked_eq inside _,
            formed.overwrite (formed.number_lt inside) _,
            (small.edgeBits_setIdAtCell_eq _ _).trans bits⟩

end Palette

namespace MappingTable

variable
    (table : MappingTable)
    {content : Section}
    (checked : content.Checked)
include checked

theorem convertBiomesChecked_eq :
    table.convertBiomesChecked content.biomes =
      some (table.convertBiomes content.biomes) := by
  cases biomes : content.biomes with
  | none => rfl
  | some source =>
      rw [convertBiomesChecked,
        (checked.biomes source biomes).downsampleChecked_eq
        (checked.biomes_edge biomes)]
      rfl

theorem biomeWarningsChecked_eq :
    table.biomeWarningsChecked content.biomes =
      some (table.biomeWarnings content.biomes) := by
  cases biomes : content.biomes with
  | none => rfl
  | some source =>
      rw [biomeWarningsChecked,
        (checked.biomes source biomes).downsampleChecked_eq
        (checked.biomes_edge biomes)]
      rfl

end MappingTable

/-! ## Blocks -/

namespace VisitPlan

/-- Adds the block entity of a cell whose block owns one. -/
def addEntityChecked
    (plan : VisitPlan)
    (visit : CellVisit)
    (tag : String)
    (x y z : Nat) : Option CellVisit :=
  let pos := plan.position x y z
  match plan.column.entityAt? pos with
  | some record => do
      match plan.converter.entities.convertEntity?
          (← plan.primary.idAtChecked x y z) record with
      | some converted =>
          let blocks ←
            match converted.stateOverride with
            | some state => visit.blocks.setIdAtChecked x y z state
            | none => some visit.blocks
          return { visit with
            blocks := blocks
            entities :=
              if converted.hasData then visit.entities.push converted
              else visit.entities }
      | none => return visit
  | none =>
      match plan.converter.table.entityType? tag with
      | some typeId =>
          some
            { visit with entities := visit.entities.push (.empty pos typeId) }
      | none => some visit

/--
Visits one cell.  The table of its palette may have grown past that of the
primary layer, so that the owners are asked for an entry that may be missing.
-/
def visitChecked
    (plan : VisitPlan)
    (visit : CellVisit)
    (cell : Nat × Nat × Nat) : Option CellVisit := do
  let (x, y, z) := cell
  let index := (← visit.blocks.indexAtChecked x y z).toNat
  let counted := visit.counted (← visit.blocks.id? index)
  match plan.owners[index]? with
  | some (some tag) => plan.addEntityChecked counted tag x y z
  | _ => return counted

end VisitPlan

/-- Maps the primary layer and visits its cells. -/
def Converter.visitCellsChecked
    (converter : Converter)
    (column : Column)
    (primary : Palette)
    (baseY : Int32) : Option CellVisit :=
  visitOrder.foldlM (converter.plan column primary baseY).visitChecked
    { blocks := primary.mapIds converter.table.destinationOrAir, entities :=
        #[], nonAir := 0 }

namespace MappingTable

/-- Gives one cell its waterlogged form if it lies under water. -/
def waterlogCellChecked
    (table : MappingTable)
    (primary overlay : Palette)
    (blocks : Palette)
    (cell : Nat × Nat × Nat) : Option Palette := do
  let (x, y, z) := cell
  if table.waterlogs (← primary.idAtChecked x y z)
      (← overlay.idAtChecked x y z) then
    match table.waterlogged? (← blocks.idAtChecked x y z) with
    | some state => blocks.setIdAtChecked x y z state
    | none => return blocks
  else return blocks

/-- Gives the cells under water their waterlogged form. -/
def waterlogChecked
    (table : MappingTable)
    (primary overlay blocks : Palette) : Option Palette := do
  if (← overlay.singleChecked) = some table.sourceAir then return blocks
  else visitOrder.foldlM (table.waterlogCellChecked primary overlay) blocks

/-- The blocks of a section under its overlay, if it has one. -/
def floodedChecked
    (table : MappingTable)
    (primary : Palette)
    (overlay : Option Palette)
    (blocks : Palette) : Option Palette :=
  match overlay with
  | some overlay => table.waterlogChecked primary overlay blocks
  | none => some blocks

/-- The remarks on one cell of an overlay. -/
def waterlogCellWarningsChecked
    (table : MappingTable)
    (primary overlay blocks : Palette)
    (cell : Nat × Nat × Nat) : Option (List Warning) := do
  let (x, y, z) := cell
  let below ← primary.idAtChecked x y z
  let above ← overlay.idAtChecked x y z
  if below = table.sourceAir ∨ above = table.sourceAir then return []
  else if table.isWater above then
    let state ← blocks.idAtChecked x y z
    return if (table.waterlogged? state).isNone then
      [.noWaterloggedForm below] else []
  else return [.overlayNotWater below above]

/--
The remarks on an overlay, given the blocks before any cell was waterlogged.
-/
def waterlogWarningsChecked
    (table : MappingTable)
    (primary overlay blocks : Palette) : Option (List Warning) := do
  if (← overlay.singleChecked) = some table.sourceAir then return []
  else
    return (← visitOrder.mapM
      (table.waterlogCellWarningsChecked primary overlay blocks)).flatten

end MappingTable

namespace VisitPlan

variable {plan : VisitPlan} {visit : CellVisit} {place : Place}

theorem addEntityChecked_eq
    (primary : plan.primary.SectionCube)
    (cube : visit.blocks.SectionCube)
    (member : place ∈ placesOf 16)
    (tag : String) :
    plan.addEntityChecked visit tag place.1 place.2.1 place.2.2 =
      some (plan.addEntity visit tag place.1 place.2.1 place.2.2) := by
  obtain ⟨xLt, yLt, zLt⟩ := mem_placesOf_iff.1 member
  rw [addEntityChecked, addEntity]
  cases plan.column.entityAt? (plan.position place.1 place.2.1 place.2.2) with
  | some record =>
      rw [primary.idAtChecked_eq xLt yLt zLt]
      simp only [Option.bind_eq_bind, Option.bind_some]
      cases plan.converter.entities.convertEntity?
          (plan.primary.idAt place.1 place.2.1 place.2.2) record with
      | none => rfl
      | some converted =>
          dsimp only
          cases converted.stateOverride with
          | none => rfl
          | some state =>
              dsimp only
              rw [cube.setIdAtChecked_eq xLt yLt zLt]
              rfl
  | none =>
      dsimp only
      cases plan.converter.table.entityType? tag <;> rfl

theorem visitChecked_eq
    (primary : plan.primary.SectionCube)
    (cube : visit.blocks.SectionCube)
    (member : place ∈ placesOf 16) :
    plan.visitChecked visit place = some (plan.visit visit place) := by
  obtain ⟨xLt, yLt, zLt⟩ := mem_placesOf_iff.1 member
  have inside := cube.inside xLt yLt zLt
  have entry :=
    cube.toWellFormed.getElem?_get (cube.toWellFormed.cell_lt inside)
  rw [visitChecked, cube.toWellFormed.indexAtChecked_eq inside, visit_unfold]
  simp only [Option.bind_eq_bind, Option.bind_some, id?, indexAt, number,
    entry]
  rcases plan.owners[(visit.blocks.indices.get
    (visit.blocks.cell place.1 place.2.1 place.2.2)).toNat]? with _ | _ | tag
  · rfl
  · rfl
  · refine addEntityChecked_eq primary ?_ member tag
    rwa [CellVisit.blocks_counted]

/-- The visit of cells of a section reads and writes within the section. -/
theorem foldlM_visitChecked_eq
    (primary : plan.primary.SectionCube)
    {places : List Place}
    (inside : ∀ place ∈ places, place ∈ placesOf 16)
    (cube : visit.blocks.SectionCube) :
    places.foldlM plan.visitChecked visit =
      some (places.foldl plan.visit visit) := by
  refine (foldlM_eq_some (fun visit => visit.blocks.SectionCube) ?_ cube).1
  intro before held place member
  have within := inside place member
  refine ⟨visitChecked_eq primary held within, ?_⟩
  rcases plan.blocks_visit before place with same | ⟨state, written⟩
  · rw [same]
    exact held
  · rw [written]
    exact held.write within state

end VisitPlan

theorem Converter.visitCellsChecked_eq
    (converter : Converter)
    (column : Column)
    {primary : Palette}
    (cube : primary.SectionCube)
    (baseY : Int32) :
    converter.visitCellsChecked column primary baseY =
      some (converter.visitCells column primary baseY) :=
  @VisitPlan.foldlM_visitChecked_eq
    (converter.plan column primary baseY) _ cube _ (fun _ member => member)
    (cube.mapIds _)

namespace MappingTable

variable
    (table : MappingTable)
    {primary overlay blocks : Palette}
    {place : Place}
    (below : primary.SectionCube)
    (above : overlay.SectionCube)
include below above

theorem waterlogCellChecked_eq
    (cube : blocks.SectionCube)
    (member : place ∈ placesOf 16) :
    table.waterlogCellChecked primary overlay blocks place =
      some (table.waterlogCell primary overlay blocks place) := by
  obtain ⟨xLt, yLt, zLt⟩ := mem_placesOf_iff.1 member
  rw [waterlogCellChecked, waterlogCell, below.idAtChecked_eq xLt yLt zLt,
    above.idAtChecked_eq xLt yLt zLt, cube.idAtChecked_eq xLt yLt zLt]
  simp only [Option.bind_eq_bind, Option.bind_some]
  split
  · cases table.waterlogged? (blocks.idAt place.1 place.2.1 place.2.2) with
    | none => rfl
    | some state => exact cube.setIdAtChecked_eq xLt yLt zLt state
  · rfl

theorem waterlogChecked_eq (cube : blocks.SectionCube) :
    table.waterlogChecked primary overlay blocks =
      some (table.waterlog primary overlay blocks) := by
  rw [waterlogChecked, above.toWellFormed.singleChecked_eq, waterlog]
  simp only [Option.bind_eq_bind, Option.bind_some]
  split
  · rfl
  · refine (foldlM_eq_some Palette.SectionCube ?_ cube).1
    intro before held place member
    exact ⟨table.waterlogCellChecked_eq below above held member,
      table.cube_foldl_waterlogCell primary overlay
        (fun other here => List.mem_singleton.1 here ▸ member) held⟩

omit above in
theorem floodedChecked_eq
    {overlay : Option Palette}
    (above : ∀ palette, overlay = some palette → palette.SectionCube)
    (cube : blocks.SectionCube) :
    table.floodedChecked primary overlay blocks =
      some (table.flooded primary overlay blocks) := by
  cases overlay with
  | none => rfl
  | some overlay =>
      exact table.waterlogChecked_eq below (above overlay rfl) cube

theorem waterlogWarningsChecked_eq (cube : blocks.SectionCube) :
    table.waterlogWarningsChecked primary overlay blocks =
      some (table.waterlogWarnings primary overlay blocks) := by
  have cells :
      visitOrder.mapM
        (table.waterlogCellWarningsChecked primary overlay blocks) =
      some
        (visitOrder.map
          (table.waterlogCellWarnings primary overlay blocks)) := by
    refine mapM_eq_some fun place member => ?_
    obtain ⟨xLt, yLt, zLt⟩ := mem_placesOf_iff.1 member
    rw [waterlogCellWarningsChecked, waterlogCellWarnings,
      below.idAtChecked_eq xLt yLt zLt, above.idAtChecked_eq xLt yLt zLt,
      cube.idAtChecked_eq xLt yLt zLt]
    simp only [Option.bind_eq_bind, Option.bind_some]
    split
    · rfl
    · split <;> rfl
  rw [waterlogWarningsChecked, above.toWellFormed.singleChecked_eq, cells,
    waterlogWarnings, List.flatMap_def]
  simp only [Option.bind_eq_bind, Option.bind_some]
  split <;> rfl

end MappingTable

/-! ## Heights -/

/--
Searches the lowest `count` cells above `base` until one is found that stops
movement.
-/
def Palette.findPeaksChecked
    (palette : Palette)
    (stops : UInt32 → Bool)
    (x z base : Nat) : Nat → Peaks → Option Peaks
  | 0, peaks => some peaks
  | y + 1, peaks => do
      let id ← palette.idAtChecked x y z
      if id = air then palette.findPeaksChecked stops x z base y peaks
      else
        let peaks :=
          { peaks with surface := peaks.surface.or (some (base + y)) }
        if stops id then return { peaks with blocking := some (base + y) }
        else palette.findPeaksChecked stops x z base y peaks

/--
Searches the lowest `count` sections; those that hold nothing but air are
passed over.
-/
def findPeaksChecked
    (sections : Array Palette)
    (stops : UInt32 → Bool)
    (x z : Nat) : Nat → Peaks → Option Peaks
  | 0, peaks => some peaks
  | slot + 1, peaks => do
      let palette ← sections[slot]?
      let found ←
        if (← palette.singleChecked) = some air then some peaks
        else palette.findPeaksChecked stops x z (slot * 16) 16 peaks
      if found.blocking.isSome then return found
      else findPeaksChecked sections stops x z slot found

/-- What is found in all columns of cells, numbered `16 * z + x`. -/
def allPeaksChecked
    (sections : Array Palette)
    (stops : UInt32 → Bool) : Option (Array Peaks) :=
  ((List.range 256).mapM fun place =>
    findPeaksChecked sections stops (place % 16) (place / 16) sections.size
      ⟨none, none⟩).map
      List.toArray

/-- The heightmaps of a stack of sections. -/
def Heightmaps.ofSectionsChecked
    (table : MappingTable)
    (sections : Array Palette)
    (minY : Int32) : Option Heightmaps := do
  let peaks ← allPeaksChecked sections table.isMotionBlocking
  return {
    worldSurface :=
      peaks.map fun found => (heightEntry minY found.surface).toInt
    motionBlocking :=
      peaks.map fun found => (heightEntry minY found.blocking).toInt
    bitsPerEntry := bitsFor (sections.size * 16 % UInt32.size + 1) }

theorem Palette.SectionCube.findPeaksChecked_eq
    {palette : Palette}
    (cube : palette.SectionCube)
    (stops : UInt32 → Bool)
    {x z : Nat}
    (xLt : x < 16)
    (zLt : z < 16)
    (base : Nat)
    {count : Nat}
    (low : count ≤ 16)
    (peaks : Peaks) :
    palette.findPeaksChecked stops x z base count peaks =
      some (palette.findPeaks stops x z base count peaks) := by
  induction count generalizing peaks with
  | zero => rfl
  | succ y ih =>
      have lower := ih (Nat.le_of_succ_le low)
      rw [Palette.findPeaksChecked, Palette.findPeaks,
        cube.idAtChecked_eq xLt low zLt]
      simp only [Option.bind_eq_bind, Option.bind_some, lower]
      split
      · rfl
      · split <;> rfl

section

variable
    {sections : Array Palette}
    (cubes : ∀ palette ∈ sections, palette.SectionCube)
    (stops : UInt32 → Bool)
include cubes

theorem findPeaksChecked_eq
    {x z : Nat}
    (xLt : x < 16)
    (zLt : z < 16)
    {count : Nat}
    (low : count ≤ sections.size)
    (peaks : Peaks) :
    findPeaksChecked sections stops x z count peaks =
      some (findPeaks sections stops x z count peaks) := by
  induction count generalizing peaks with
  | zero => rfl
  | succ slot ih =>
      have cube := cubes _ (Array.getElem_mem low)
      have lower := ih (Nat.le_of_succ_le low)
      have searched :=
        cube.findPeaksChecked_eq stops xLt zLt (slot * 16)
          (Nat.le_refl 16) peaks
      rw [findPeaksChecked, findPeaks, Array.getElem?_eq_getElem low]
      simp only [Option.bind_eq_bind, Option.bind_some,
        cube.toWellFormed.singleChecked_eq]
      by_cases empty : sections[slot].single? = some air
      · simp only [if_pos empty, lower]
        split <;> rfl
      · simp only [if_neg empty, searched, Option.bind_some, lower]
        split <;> rfl

theorem allPeaksChecked_eq :
    allPeaksChecked sections stops = some (allPeaks sections stops) := by
  have found : ((List.range 256).mapM fun place =>
      findPeaksChecked sections stops (place % 16) (place / 16) sections.size
        ⟨none, none⟩) =
      some ((List.range 256).map fun place =>
        findPeaks sections stops (place % 16) (place / 16) sections.size
          ⟨none, none⟩) := by
    refine mapM_eq_some fun place member => ?_
    have inside := List.mem_range.1 member
    exact findPeaksChecked_eq cubes stops (Nat.mod_lt _ (by decide))
      (by omega) (Nat.le_refl _) _
  rw [allPeaksChecked, found, allPeaks, ← List.toArray_range,
    List.map_toArray]
  rfl

theorem Heightmaps.ofSectionsChecked_eq
    (table : MappingTable)
    (minY : Int32) :
    ofSectionsChecked table sections minY =
      some (ofSections table sections minY) := by
  rw [ofSectionsChecked, allPeaksChecked_eq cubes]
  rfl

end

/-! ## Columns -/

namespace Converter

/-- Converts one section and lists its block entities. -/
def convertSectionChecked
    (converter : Converter)
    (column : Column)
    (minY : Int32)
    (slot : Nat)
    (content : Section) : Option (TargetSection × Array TargetEntity) := do
  let biomes ← converter.table.convertBiomesChecked content.biomes
  match content.layer? 0 with
  | none => return (⟨.blocks air, biomes, 0⟩, #[])
  | some primary =>
      let visit ← converter.visitCellsChecked column primary (baseY minY slot)
      let blocks ← converter.table.floodedChecked primary (content.layer? 1)
        visit.blocks
      return (⟨blocks, biomes, visit.nonAir⟩, visit.entities)

/-- Converts a column of a world whose lowest blocks lie at `minY`. -/
def convertChecked
    (converter : Converter)
    (column : Column)
    (minY : Int32) : Option TargetColumn := do
  let converted ← column.sections.toList.zipIdx.mapM fun (content, slot) =>
    converter.convertSectionChecked column minY slot content
  let sections := converted.toArray.map (·.1)
  return {
    pos := column.pos
    sections := sections
    heightmaps :=
      ← Heightmaps.ofSectionsChecked converter.table
        (sections.map (·.blocks)) minY
    entities := converted.toArray.flatMap (·.2) }

/-- The remarks on the overlay of one section, if it has one. -/
def overlayWarningsChecked
    (converter : Converter)
    (column : Column)
    (minY : Int32)
    (slot : Nat)
    (primary : Palette) : Option Palette → Option (List Warning)
  | some overlay =>
      (converter.visitCellsChecked column primary (baseY minY slot)).bind
        fun visit =>
          converter.table.waterlogWarningsChecked primary overlay visit.blocks
  | none => some []

/-- The remarks on the blocks of one section. -/
def blockWarningsChecked
    (converter : Converter)
    (column : Column)
    (minY : Int32)
    (slot : Nat)
    (content : Section) : Option (List Warning) :=
  match content.layer? 0 with
  | none => some []
  | some primary =>
      let unmapped :=
        primary.ids.toList.filter fun id =>
          (converter.table.destination? id).isNone
      (converter.overlayWarningsChecked column minY slot primary
        (content.layer? 1)).map
        (unmapped.map .unmappedBlock ++ ·)

/-- The remarks on the conversion of one section. -/
def sectionWarningsChecked
    (converter : Converter)
    (column : Column)
    (minY : Int32)
    (slot : Nat)
    (content : Section) : Option (List Warning) := do
  let blockWarnings ← converter.blockWarningsChecked column minY slot content
  return blockWarnings ++
    (← converter.table.biomeWarningsChecked content.biomes)

/-- The remarks on the conversion of a column. -/
def warningsChecked
    (converter : Converter)
    (column : Column)
    (minY : Int32) : Option (List Warning) := do
  let warnings ← column.sections.toList.zipIdx.mapM fun (content, slot) =>
    converter.sectionWarningsChecked column minY slot content
  return warnings.flatten

section

variable (converter : Converter) (column : Column) (minY : Int32) (slot : Nat)

theorem convertSectionChecked_eq
    {content : Section}
    (checked : content.Checked) :
    converter.convertSectionChecked column minY slot content =
      some (converter.convertSection column minY slot content) := by
  rw [convertSectionChecked, converter.table.convertBiomesChecked_eq checked]
  cases found : content.layer? 0 with
  | none => rw [convertSection_of_empty found]; rfl
  | some primary =>
      have cube := checked.cube found
      have visited := converter.cube_visitCells column cube (baseY minY slot)
      have above : ∀ overlay, content.layer? 1 = some overlay →
          overlay.SectionCube :=
        fun _ => checked.cube
      have flooded := converter.table.floodedChecked_eq cube above visited
      rw [convertSection_of_primary found]
      simp only [Option.bind_eq_bind, Option.bind_some,
        converter.visitCellsChecked_eq column cube, flooded]
      rfl

theorem sectionWarningsChecked_eq
    {content : Section}
    (checked : content.Checked) :
    converter.sectionWarningsChecked column minY slot content =
      some (converter.sectionWarnings column minY slot content) := by
  rw [sectionWarningsChecked, converter.table.biomeWarningsChecked_eq checked,
    blockWarningsChecked, sectionWarnings]
  cases found : content.layer? 0 with
  | none => rfl
  | some primary =>
      have cube := checked.cube found
      have visited := converter.cube_visitCells column cube (baseY minY slot)
      dsimp only
      cases above : content.layer? 1 with
      | none => rfl
      | some overlay =>
          rw [overlayWarningsChecked,
            converter.visitCellsChecked_eq column cube, Option.bind_some,
            converter.table.waterlogWarningsChecked_eq cube
              (checked.cube above) visited]
          rfl

end

/-- What is done for each section of a column is done with its slot. -/
theorem mapM_zipIdx_eq_some
    {α : Type}
    {sections : Array Section}
    {checked : Nat → Section → Option α}
    {plain : Nat → Section → α}
    (each : ∀ content ∈ sections, ∀ slot,
      checked slot content = some (plain slot content)) :
    (sections.toList.zipIdx.mapM fun (content, slot) =>
      checked slot content) =
        some (sections.mapIdx plain).toList := by
  rw [Array.toList_mapIdx, List.mapIdx_eq_zipIdx_map]
  refine mapM_eq_some ?_
  rintro ⟨content, slot⟩ member
  exact each content
    (Array.mem_toList_iff.1 (List.fst_mem_of_mem_zipIdx member)) slot

variable
    {column : Column}
    {count : Nat}
    (converter : Converter)
    (shaped : column.Shaped count)
    (minY : Int32)
include shaped

/-- A column in shape is converted within the bounds of its sections. -/
theorem convertChecked_eq :
    converter.convertChecked column minY =
      some (converter.convert column minY) := by
  have sections := mapM_zipIdx_eq_some fun content member slot =>
    converter.convertSectionChecked_eq column minY slot
      (shaped.sections content member).toChecked
  have heights := Heightmaps.ofSectionsChecked_eq
    (converter.cubes_palettes_convert shaped.cubic minY) converter.table minY
  rw [TargetColumn.palettes, convert] at heights
  rw [convertChecked, sections]
  simp only [Option.bind_eq_bind, Option.bind_some, Array.toArray_toList,
    heights]
  rfl

theorem warningsChecked_eq :
    converter.warningsChecked column minY =
      some (converter.warnings column minY) := by
  have sections := mapM_zipIdx_eq_some fun content member slot =>
    converter.sectionWarningsChecked_eq column minY slot
      (shaped.sections content member).toChecked
  rw [warningsChecked, sections]
  rfl

end Converter

end VoxelRelay
