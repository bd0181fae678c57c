import VoxelRelay.Conversion.Column
import VoxelRelay.Demo.Terrain
import VoxelRelay.Proofs.BlockVisits
import VoxelRelay.Proofs.RegisteredTables

/-!
# Sections as they are converted

A converted section holds, in every cell, the state that the cell's block and
position call for, in its waterlogged form where the overlay is water.  Without
states for blocks that have a record, that is the state that converting the
cell by itself gives.
-/

namespace VoxelRelay

open Palette MappingTable

/-! ## Sections of the right shape -/

namespace Section

/--
A section that passes the check of its shape and whose palettes are well
formed.
-/
structure Checked (content : Section) : Prop where
  shape : content.checkShape = .ok ()
  layers : ∀ palette ∈ content.layers, palette.WellFormed
  biomes : ∀ palette ∈ content.biomes, palette.WellFormed

theorem edges_of_checkShape
    {content : Section}
    (shape : content.checkShape = .ok ()) :
    (∀ palette ∈ content.layers, palette.edge = 16) ∧
      ∀ palette ∈ content.biomes, palette.edge = 16 ∨ palette.edge = 4 := by
  unfold checkShape at shape
  split at shape
  · cases shape
  · split at shape
    · cases shape
    · next uniform =>
        constructor
        · intro palette member
          have edge : palette.edge = sectionEdge := by
            simpa using Array.findIdx?_eq_none_iff.1 uniform palette member
          exact edge
        · intro palette member
          rw [show content.biomes = some palette from member] at shape
          dsimp only at shape
          split at shape
          · next edge => exact edge
          · cases shape

namespace Checked

variable {content : Section} (checked : content.Checked)
include checked

theorem cube
    {layer : Nat}
    {palette : Palette}
    (found : content.layer? layer = some palette) :
    palette.SectionCube :=
  have member := Array.mem_of_getElem? found
  ⟨checked.layers palette member,
    edgeBits_eq_of_edge
      ((edges_of_checkShape checked.shape).1 palette member)⟩

theorem biomes_edge
    {palette : Palette}
    (found : palette ∈ content.biomes) :
    palette.edge = 16 ∨ palette.edge = 4 :=
  (edges_of_checkShape checked.shape).2 palette found

end Checked

end Section

/-! ## Overlays -/

namespace MappingTable

/-- The blocks of a section under its overlay, if it has one. -/
def flooded
    (table : MappingTable)
    (primary : Palette)
    (overlay : Option Palette)
    (blocks : Palette) : Palette :=
  match overlay with
  | some overlay => table.waterlog primary overlay blocks
  | none => blocks

/-- The state of a cell under an overlay, if there is one. -/
def floodedState
    (table : MappingTable)
    (primary : Palette)
    (overlay : Option Palette)
    (place : Place)
    (state : UInt32) : UInt32 :=
  match overlay with
  | some overlay =>
      table.wetState (primary.read place) (overlay.read place) state
  | none => state

theorem rewritten_flooded
    (table : MappingTable)
    (primary : Palette)
    (overlay : Option Palette)
    {before blocks : Palette}
    {value : Place → UInt32}
    (rewritten : Rewritten before blocks value)
    (edge : before.edge = 16) :
    Rewritten before (table.flooded primary overlay blocks) fun place =>
      table.floodedState primary overlay place (value place) := by
  cases overlay with
  | none => exact rewritten
  | some overlay =>
      have edge := (edge_congr rewritten.edgeBits_eq).trans edge
      have wet :=
        table.rewritten_waterlog primary overlay rewritten.writable edge
      refine (rewritten.trans wet).congr fun place inside => ?_
      rw [rewritten.read_eq place inside]
      rfl

end MappingTable

/-! ## Block by block -/

namespace Converter

variable
    {converter : Converter}
    {column : Column}
    {minY : Int32}
    {slot : Nat}
    {content : Section}
    {primary : Palette}

/-- The plan for a section in a slot. -/
def planFor
    (converter : Converter)
    (column : Column)
    (minY : Int32)
    (slot : Nat)
    (primary : Palette) : VisitPlan :=
  converter.plan column primary (baseY minY slot)

theorem convertSection_of_empty (empty : content.layer? 0 = none) :
    converter.convertSection column minY slot content =
      (⟨.blocks air, converter.table.convertBiomes content.biomes, 0⟩,
        #[]) := by
  rw [convertSection, empty]

/-- What a section is converted to after the visit of its cells. -/
def assembled
    (converter : Converter)
    (content : Section)
    (primary : Palette)
    (visit : CellVisit) : TargetSection × Array TargetEntity :=
  (⟨converter.table.flooded primary (content.layer? 1) visit.blocks,
    converter.table.convertBiomes content.biomes, visit.nonAir⟩,
    visit.entities)

section

variable (converter) (content) (primary) (visit : CellVisit)

theorem blocks_assembled :
    (converter.assembled content primary visit).1.blocks =
      converter.table.flooded primary (content.layer? 1) visit.blocks :=
  rfl

theorem biomes_assembled :
    (converter.assembled content primary visit).1.biomes =
      converter.table.convertBiomes content.biomes :=
  rfl

theorem nonAir_assembled :
    (converter.assembled content primary visit).1.nonAir = visit.nonAir :=
  rfl

theorem entities_assembled :
    (converter.assembled content primary visit).2 = visit.entities :=
  rfl

end

theorem convertSection_of_primary (found : content.layer? 0 = some primary) :
    converter.convertSection column minY slot content =
      converter.assembled content primary
        (converter.visitCells column primary (baseY minY slot)) := by
  rw [convertSection, found]
  rfl

theorem biomes_convertSection :
    (converter.convertSection column minY slot content).1.biomes =
      converter.table.convertBiomes content.biomes := by
  cases layer : content.layer? 0 with
  | none => rw [convertSection_of_empty layer]
  | some primary => rw [convertSection_of_primary layer, biomes_assembled]

theorem getElem?_palettes_convert
    (converter : Converter)
    (column : Column)
    (minY : Int32)
    (slot : Nat) :
    (converter.convert column minY).palettes[slot]? =
      column.sections[slot]?.map fun content =>
        (converter.convertSection column minY slot content).1.blocks := by
  rw [TargetColumn.palettes, convert, Array.getElem?_map, Array.getElem?_map,
    Array.getElem?_mapIdx, Option.map_map, Option.map_map]
  rfl

theorem size_palettes_convert
    (converter : Converter)
    (column : Column)
    (minY : Int32) :
    (converter.convert column minY).palettes.size = column.sections.size := by
  simp [TargetColumn.palettes, convert]

/-- A section of the right shape that has room for the states of records. -/
structure Fits (converter : Converter) (content : Section) : Prop where
  checked : content.Checked
  room : ∀ primary, content.layer? 0 = some primary →
    converter.HasRoom primary

namespace Fits

variable
    (fits : converter.Fits content)
    (found : content.layer? 0 = some primary)
    (column : Column)
    (minY : Int32)
    (slot : Nat)
include fits found

theorem found_visitCells :
    (converter.planFor column minY slot primary).Found (placesOf 16)
      { blocks := primary.mapIds converter.table.destinationOrAir, entities :=
          #[], nonAir := 0 }
      (converter.visitCells column primary (baseY minY slot)) :=
  Converter.found_visitCells (fits.checked.cube found)
    (fits.room primary found) column _

theorem rewritten_visitCells :
    Rewritten primary
      (converter.visitCells column primary (baseY minY slot)).blocks
      (converter.planFor column minY slot primary).state := by
  have cube := fits.checked.cube found
  have mapped := ((fits.room primary found).writable cube).rewritten_mapIds
    converter.table.destinationOrAir
  have visited := (fits.found_visitCells found column minY slot).blocks
  refine (mapped.trans visited).congr fun place inside => ?_
  exact if_pos (cube.inside_iff.1 inside)

/-- The blocks of a converted section, cell by cell. -/
theorem rewritten_convertSection :
    Rewritten primary
      (converter.convertSection column minY slot content).1.blocks
      fun place =>
        converter.table.floodedState primary (content.layer? 1) place
          ((converter.planFor column minY slot primary).state place) := by
  rw [convertSection_of_primary found, blocks_assembled]
  exact converter.table.rewritten_flooded primary (content.layer? 1)
    (fits.rewritten_visitCells found column minY slot)
    (fits.checked.cube found).edge_eq

theorem read_convertSection
    {place : Place}
    (member : place ∈ placesOf 16) :
    (converter.convertSection column minY slot content).1.blocks.read place =
      converter.table.floodedState primary (content.layer? 1) place
        ((converter.planFor column minY slot primary).state place) := by
  have inside : primary.Inside place :=
    (fits.checked.cube found).inside_iff.2 member
  exact (fits.rewritten_convertSection found column minY slot).read_eq
    place inside

/--
The count of a converted section is that of the cells that are not mapped to
air.
-/
theorem nonAir_convertSection :
    (converter.convertSection column minY slot content).1.nonAir =
      (placesOf 16).countP fun place =>
        (converter.planFor column minY slot primary).mapped place != air := by
  rw [convertSection_of_primary found, nonAir_assembled,
    (fits.found_visitCells found column minY slot).nonAir, Nat.zero_add]

/--
The block entities of a converted section stand in the order of the visit.
-/
theorem toList_entities_convertSection :
    (converter.convertSection column minY slot content).2.toList =
      (placesOf 16).filterMap fun place =>
        ((converter.planFor column minY slot primary).entity? place).filter
          (·.hasData) := by
  rw [convertSection_of_primary found, entities_assembled,
    (fits.found_visitCells found column minY slot).entities, List.nil_append]

end Fits

/-- The blocks of a converted section are a cube of sixteen. -/
theorem Fits.cube_convertSection
    (fits : converter.Fits content)
    (column : Column)
    (minY : Int32)
    (slot : Nat) :
    (converter.convertSection column minY slot
      content).1.blocks.SectionCube := by
  cases layer : content.layer? 0 with
  | none =>
      rw [convertSection_of_empty layer]
      exact sectionCube_blocks air
  | some primary =>
      have rewritten := fits.rewritten_convertSection layer column minY slot
      exact ⟨rewritten.writable.toWellFormed,
        rewritten.edgeBits_eq.trans (fits.checked.cube layer).edgeBits_eq⟩

end Converter

/-! ## Agreement with single cells -/

namespace VisitPlan

/--
Without states for blocks that have a record, no cell gets another state than
its mapped one.
-/
theorem stateOverride_entity?_eq_none
    {plan : VisitPlan}
    (none : plan.converter.entities.overrides = [])
    (place : Place) :
    (plan.entity? place).bind (·.stateOverride) = Option.none := by
  cases override : (plan.entity? place).bind (·.stateOverride) with
  | none => rfl
  | some state =>
      obtain ⟨entity, found, replaced⟩ := Option.bind_eq_some_iff.1 override
      have member := Converter.mem_overrides_of_entityFor? found replaced
      rw [none] at member
      cases member

theorem state_eq_mapped_of_overrides_eq_nil
    {plan : VisitPlan}
    (none : plan.converter.entities.overrides = [])
    (place : Place) :
    plan.state place = plan.mapped place := by
  rw [state_eq, stateOverride_entity?_eq_none none, Option.getD_none]

end VisitPlan

namespace Section

variable
    {content : Section}
    {table : MappingTable}
    {primary : Palette}
    {place : Place}

theorem destinationState_of_empty
    (shows : table.ShowsAir)
    (empty : content.layer? 0 = none) :
    content.destinationState table place.1 place.2.1 place.2.2 = air := by
  have below : content.primaryAt table place.1 place.2.1 place.2.2 =
      table.sourceAir := by
    rw [primaryAt, blockAt?, empty]
    rfl
  rw [destinationState, isUnderWater, below, shows.destinationOrAir_sourceAir]
  simp

/--
The form in which a cell shows a state: waterlogged under water, if it has
such a form.
-/
def soaked
    (content : Section)
    (table : MappingTable)
    (place : Place)
    (state : UInt32) : UInt32 :=
  if content.isUnderWater table place.1 place.2.1 place.2.2 then
    (table.waterlogged? state).getD state
  else state

/-- A cell shows every state as its overlay has it, wet where that is water. -/
theorem soaked_of_primary
    (shows : table.ShowsAir)
    (found : content.layer? 0 = some primary)
    (state : UInt32) :
    content.soaked table place state =
      table.floodedState primary (content.layer? 1) place state := by
  have below : content.primaryAt table place.1 place.2.1 place.2.2 =
      primary.read place := by
    rw [primaryAt, blockAt?, found]
    rfl
  rw [soaked, isUnderWater, below, blockAt?]
  cases content.layer? 1 with
  | none => simp [floodedState]
  | some overlay =>
      have above : overlay.idAt place.1 place.2.1 place.2.2 =
          overlay.read place := rfl
      simp only [Option.map_some, Option.any_some, above, floodedState,
        wetState, waterlogs]
      -- Source air is not water, so asking whether the overlay is air changes
      -- nothing.
      by_cases airy : overlay.read place = table.sourceAir
      · simp [airy, shows.isWater_sourceAir]
      · simp [airy]

/--
The state of a cell by itself is its mapped state, wet where the overlay is
water.
-/
theorem destinationState_of_primary
    (shows : table.ShowsAir)
    (found : content.layer? 0 = some primary) :
    content.destinationState table place.1 place.2.1 place.2.2 =
      table.floodedState primary (content.layer? 1) place
        (table.destinationOrAir (primary.read place)) := by
  have below : content.primaryAt table place.1 place.2.1 place.2.2 =
      primary.read place := by
    rw [primaryAt, blockAt?, found]
    rfl
  rw [← soaked_of_primary shows found, ← below]
  rfl

end Section

namespace Converter

variable
    {converter : Converter}
    {sourceAir replacement entityAir entityReplacement : UInt32}
    {entries entityEntries : List Registration}
    {column : Column}
    {slot : Nat}
    {content : Section}

/--
With tables that were built by registrations, none of them for blocks that have
a record, every cell of a converted column holds what converting the cell by
itself gives.
-/
theorem idAt_convert
    (built : entries.foldlM register (.create sourceAir replacement) =
      .ok converter.table)
    (entitiesBuilt : entityEntries.foldlM register
      (.create entityAir entityReplacement) = .ok converter.entities)
    (plain : ∀ entry ∈ entityEntries, ¬ entry.IsEntityState)
    (found : column.section? slot = some content)
    (checked : content.Checked)
    (small : ∀ palette ∈ content.layers, palette.ids.size ≤ 65536)
    (minY : Int32)
    {x y z : Nat}
    (xLt : x < 16)
    (yLt : y < 16)
    (zLt : z < 16) :
    ∃ target, (converter.convert column minY).sections[slot]? = some target ∧
      target.blocks.idAt x y z =
        content.destinationState converter.table x y z := by
  have shows := showsAir_of_registered built
  have empty := entityStates_of_registered plain entitiesBuilt
  have none : converter.entities.overrides = [] := by
    rw [overrides, empty, Std.HashMap.toList_empty, List.map_nil]
  refine ⟨(converter.convertSection column minY slot content).1, ?_, ?_⟩
  · have known : column.sections[slot]? = some content := found
    simp [convert, known]
  · have member : (x, y, z) ∈ placesOf 16 :=
      mem_placesOf_iff.2 ⟨xLt, yLt, zLt⟩
    cases layer : content.layer? 0 with
    | none =>
        rw [convertSection_of_empty layer]
        have alone :=
          @Section.destinationState_of_empty _ _ (x, y, z) shows layer
        exact (idAtCell_filled _ _ _).trans alone.symm
    | some primary =>
        have fits : converter.Fits content := {
          checked := checked
          room := fun palette found =>
            ⟨small palette (Array.mem_of_getElem? found), fun some =>
              by simp [empty] at some⟩ }
        have alone :=
          @Section.destinationState_of_primary _ _ _ (x, y, z) shows layer
        have mapped := @VisitPlan.state_eq_mapped_of_overrides_eq_nil
          (converter.planFor column minY slot primary) none (x, y, z)
        refine (fits.read_convertSection layer column minY slot member).trans
          ?_
        rw [alone]
        exact congrArg
          (converter.table.floodedState primary (content.layer? 1) (x, y, z))
          mapped

/-- A column with a section of chests that stand in water. -/
def floodedChests : Column where
  pos := ⟨2, -3⟩
  sections :=
    #[.empty, .ofLayers #[.blocks Terrain.chest, .blocks Terrain.water] none]
  entities := #[]
  declared := 2

theorem checked_floodedChests :
    (Section.ofLayers #[.blocks Terrain.chest, .blocks Terrain.water]
      none).Checked where
  shape := by cbv
  layers := by
    intro palette member
    simp only [Section.ofLayers, List.mem_toArray, List.mem_cons,
      List.not_mem_nil, or_false] at member
    rcases member with rfl | rfl <;> exact wellFormed_filled _ _
  biomes := by
    intro palette member
    cases member

/-- In the made-up world a chest in water is shown as a waterlogged chest. -/
theorem idAt_convert_floodedChests :
    ∃ table target, Terrain.table = .ok table ∧
      (∀ entry ∈ Terrain.registrations, ¬ entry.IsEntityState) ∧
      ((⟨table, table⟩ : Converter).convert floodedChests
        (-64)).sections[1]? = some target ∧
      target.blocks.idAt 1 2 3 = 251 := by
  have shown : (Terrain.table.toOption.map fun table =>
      (Section.ofLayers #[.blocks Terrain.chest, .blocks Terrain.water]
        none).destinationState
        table 1 2 3) = some 251 := by cbv
  have plain : ∀ entry ∈ Terrain.registrations, ¬ entry.IsEntityState := by
    simp [Terrain.registrations, Registration.IsEntityState]
  cases built : Terrain.table with
  | error error =>
      rw [built] at shown
      cases shown
  | ok table =>
      rw [built] at shown
      have small :
          ∀ palette ∈
            (#[.blocks Terrain.chest, .blocks Terrain.water] : Array Palette),
          palette.ids.size ≤ 65536 := by
        simp [Palette.blocks, filled]
      obtain ⟨target, found, holds⟩ :=
        @idAt_convert ⟨table, table⟩ _ _ _ _ _ _ floodedChests 1
        _ built built plain rfl checked_floodedChests small (-64) 1 2 3
          (by decide) (by decide)
        (by decide)
      exact ⟨table, target, rfl, plain, found,
        holds.trans (Option.some.inj shown)⟩

end Converter

end VoxelRelay
