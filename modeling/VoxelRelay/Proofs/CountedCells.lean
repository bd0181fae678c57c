import VoxelRelay.Proofs.ColumnContents
import VoxelRelay.Proofs.CubicColumns
import VoxelRelay.Proofs.PaletteRuns

/-!
# Cells that are counted as filled

A converted section says how many of its cells hold something other than air.
They are counted while the cells are visited, each when its turn comes and
before a record puts another state into it; and water comes after all visits.
What is counted are therefore the blocks that are mapped to something other
than air, however many entries the table has.  This is the number of cells that
hold something other than air in the end exactly if as many cells are filled in
this way as are emptied, and so in particular if neither records nor water fill
or empty any.
-/

namespace VoxelRelay

open Palette

/-! ## Writes at other places -/

namespace Palette

variable {palette : Palette}

/-- A write is not seen at other places, whatever the length of the table. -/
theorem WellFormed.read_write_of_ne
    (wellFormed : palette.WellFormed)
    (small : palette.size < 2 ^ 16)
    {place other : Place}
    (inside : palette.Inside place)
    (otherInside : palette.Inside other)
    (apart : other ≠ place)
    (id : UInt32) :
    (palette.write place id).read other = palette.read other := by
  have numbered := wellFormed.number_lt inside
  have otherNumbered := wellFormed.number_lt otherInside
  have numbers : (palette.write place id).number other =
      palette.number other :=
    number_congr (palette.edgeBits_setIdAtCell_eq _ id) other
  have cells : palette.number other ≠ palette.number place :=
    fun same => apart ((number_inj otherInside inside).1 same)
  have unmoved :
      (palette.setIdAtCell (palette.number place) id).idAtCell
        (palette.number other) =
      palette.idAtCell (palette.number other) := by
    rcases palette.setIdAtCell_eq (palette.number place) id with
      ⟨index, known, written⟩ | ⟨-, written⟩
    · have fits := toNat_toUInt16_lt (Array.getElem?_eq_some_iff.1 known).1
      rw [← wellFormed.width_eq] at fits
      rw [written, idAtCell,
        PackedIndices.get_set wellFormed.sized numbered fits, if_neg cells]
      rfl
    · have roomy := palette.size_ids_makeRoom_le
      have sizes := palette.size_makeRoom
      rw [written,
        wellFormed.makeRoom.idAtCell_setIndex_extended (by omega)
          (sizes ▸ numbered) (sizes ▸ otherNumbered), if_neg cells,
          wellFormed.idAtCell_makeRoom small otherNumbered]
  rw [read, idAt, ← number, numbers]
  exact unmoved

/-- The table entry that a place refers to is what the place reads. -/
theorem WellFormed.id?_index
    (wellFormed : palette.WellFormed)
    {place : Place}
    (inside : palette.Inside place) :
    palette.id? (palette.indices.get (palette.number place)).toNat =
      some (palette.read place) := by
  have listed := wellFormed.index_lt _ (wellFormed.number_lt inside)
  rw [id?, read, idAt, idAtCell, ← number, Array.getD_eq_getD_getElem?,
    Array.getElem?_eq_getElem listed]
  rfl

end Palette

/-! ## Counting during the visit -/

namespace VisitPlan

variable (plan : VisitPlan) {visit : CellVisit} {place : Place}

theorem nonAir_addEntity
    (visit : CellVisit)
    (tag : String)
    (x y z : Nat) :
    (plan.addEntity visit tag x y z).nonAir = visit.nonAir := by
  rw [addEntity]
  split
  · split <;> rfl
  · split <;> rfl

/-- A visit counts the place if it does not hold air at this time. -/
theorem nonAir_visit
    (cube : visit.blocks.SectionCube)
    (member : place ∈ placesOf 16) :
    (plan.visit visit place).nonAir =
      visit.nonAir + if visit.blocks.read place = air then 0 else 1 := by
  rw [visit_unfold, cube.toWellFormed.id?_index (cube.inside_iff.2 member)]
  split
  · rw [nonAir_addEntity]
    exact visit.nonAir_counted _
  · exact visit.nonAir_counted _

theorem read_visit_of_ne
    (cube : visit.blocks.SectionCube)
    (member : place ∈ placesOf 16)
    {other : Place}
    (otherMember : other ∈ placesOf 16)
    (apart : other ≠ place) :
    (plan.visit visit place).blocks.read other = visit.blocks.read other := by
  rcases plan.blocks_visit visit place with same | ⟨state, written⟩
  · rw [same]
  · rw [written]
    exact cube.toWellFormed.read_write_of_ne cube.size_lt
      (cube.inside_iff.2 member) (cube.inside_iff.2 otherMember) apart state

/--
Places that are visited once are counted by what they held before all visits.
-/
theorem nonAir_foldl_visit
    {places : List Place}
    (inside : ∀ place ∈ places, place ∈ placesOf 16)
    (nodup : places.Nodup)
    (cube : visit.blocks.SectionCube) :
    (places.foldl plan.visit visit).nonAir =
      visit.nonAir + places.countP fun place =>
        visit.blocks.read place != air := by
  induction places generalizing visit with
  | nil => rfl
  | cons place rest ih =>
      obtain ⟨fresh, restNodup⟩ := List.nodup_cons.1 nodup
      have here := inside place List.mem_cons_self
      have later :=
        fun other member => inside other (List.mem_cons_of_mem _ member)
      have unseen :
          (rest.countP fun other =>
            (plan.visit visit place).blocks.read other != air) =
          rest.countP fun other => visit.blocks.read other != air := by
        apply List.countP_congr
        intro other member
        have apart : other ≠ place := fun same => fresh (same ▸ member)
        rw [plan.read_visit_of_ne cube here (later other member) apart]
      have stays : (plan.visit visit place).blocks.SectionCube :=
        plan.cube_foldl_visit
          (fun _ member => List.mem_singleton.1 member ▸ here) cube
      rw [List.foldl_cons, ih later restNodup stays,
        plan.nonAir_visit cube here, unseen, List.countP_cons]
      by_cases empty : visit.blocks.read place = air
      · simp [empty]
      · simp [empty]
        omega

end VisitPlan

/--
What is counted are the blocks that are mapped to something other than air.
-/
theorem Converter.nonAir_visitCells
    (converter : Converter)
    (column : Column)
    {primary : Palette}
    (cube : primary.SectionCube)
    (baseY : Int32) :
    (converter.visitCells column primary baseY).nonAir =
      (placesOf 16).countP fun place =>
        converter.table.destinationOrAir (primary.read place) != air := by
  rw [visitCells_eq, VisitPlan.nonAir_foldl_visit _ (fun _ member => member)
    (nodup_placesOf 16) (cube.mapIds _), Nat.zero_add]
  apply List.countP_congr
  intro place member
  rw [cube.toWellFormed.read_mapIds _ (cube.inside_iff.2 member)]

/-! ## Cells that stay filled and cells that stay empty -/

/--
Neither records nor water fill a cell whose block is mapped to air, or empty
another.
-/
structure Converter.KeepsAir (converter : Converter) : Prop where
  override : ∀ source record entity state,
    converter.entities.convertEntity? source record = some entity →
    entity.stateOverride = some state →
    (state = air ↔ converter.table.destinationOrAir source = air)
  waterlogged : ∀ state wet, converter.table.waterlogged? state = some wet →
    (wet = air ↔ state = air)

/--
A cube that can be written and that has air at the same places as another.
-/
structure Palette.AirAs (start blocks : Palette) : Prop where
  writable : blocks.Writable
  cube : blocks.SectionCube
  air_iff : ∀ place ∈ placesOf 16, blocks.read place = air ↔
    start.read place = air

namespace Palette.AirAs

variable {start blocks : Palette} (airAs : AirAs start blocks)
include airAs

theorem write
    {place : Place}
    (member : place ∈ placesOf 16)
    {state : UInt32}
    (same : state = air ↔ start.read place = air) :
    AirAs start (blocks.write place state) := by
  have written :=
    airAs.writable.rewritten_write (airAs.cube.inside_iff.2 member) state
  refine ⟨written.writable, airAs.cube.write member state,
    fun other otherMember => ?_⟩
  rw [written.read_eq other (airAs.cube.inside_iff.2 otherMember),
    Function.update_apply]
  split
  · next here => rw [here, same]
  · exact airAs.air_iff other otherMember

/-- As many cells of both cubes hold something other than air. -/
theorem countP_eq :
    ((placesOf 16).countP fun place => blocks.read place != air) =
      (placesOf 16).countP fun place => start.read place != air := by
  apply List.countP_congr
  intro place member
  simp [airAs.air_iff place member]

end Palette.AirAs

namespace VisitPlan

variable
    {plan : VisitPlan}
    (keeps : plan.converter.KeepsAir)
    (cube : plan.primary.SectionCube)
    {visit : CellVisit}
    (airAs : AirAs plan.start visit.blocks)
include keeps cube airAs

theorem airAs_addEntity
    (tag : String)
    {place : Place}
    (member : place ∈ placesOf 16) :
    AirAs plan.start
      (plan.addEntity visit tag place.1 place.2.1 place.2.2).blocks := by
  have mapped : plan.start.read place =
      plan.converter.table.destinationOrAir (plan.primary.read place) :=
    cube.toWellFormed.read_mapIds _ (cube.inside_iff.2 member)
  rw [addEntity]
  split
  · split
    · next converted =>
        dsimp only
        split
        · next override =>
            apply airAs.write member
            rw [mapped]
            exact keeps.override _ _ _ _ converted override
        · exact airAs
    · exact airAs
  · split <;> exact airAs

theorem airAs_visit
    {place : Place}
    (member : place ∈ placesOf 16) :
    AirAs plan.start (plan.visit visit place).blocks := by
  rw [visit_unfold,
    airAs.cube.toWellFormed.id?_index (airAs.cube.inside_iff.2 member)]
  have looked :
      AirAs plan.start (visit.look (some (visit.blocks.read place))).blocks :=
    (visit.blocks_counted (visit.blocks.read place)).symm ▸ airAs
  split
  · exact airAs_addEntity keeps cube looked _ member
  · exact looked

omit airAs in
theorem airAs_foldl_visit
    {places : List Place}
    (inside : ∀ place ∈ places, place ∈ placesOf 16)
    {visit : CellVisit}
    (airAs : AirAs plan.start visit.blocks) :
    AirAs plan.start (places.foldl plan.visit visit).blocks := by
  induction places generalizing visit with
  | nil => exact airAs
  | cons place rest ih =>
      exact ih
        (fun other member => inside other (List.mem_cons_of_mem _ member))
        (airAs_visit keeps cube airAs (inside place List.mem_cons_self))

end VisitPlan

namespace Converter.KeepsAir

variable
    {converter : Converter}
    (keeps : converter.KeepsAir)
    {start blocks : Palette}
    (airAs : AirAs start blocks)
include keeps airAs

theorem airAs_waterlogCell
    (primary overlay : Palette)
    {place : Place}
    (member : place ∈ placesOf 16) :
    AirAs start
      (converter.table.waterlogCell primary overlay blocks place) := by
  rw [MappingTable.waterlogCell_eq]
  split
  · split
    · next wet known =>
        exact airAs.write member
          ((keeps.waterlogged _ wet known).trans (airAs.air_iff place member))
    · exact airAs
  · exact airAs

omit airAs in
theorem airAs_foldl_waterlogCell
    (primary overlay : Palette)
    {places : List Place}
    (inside : ∀ place ∈ places, place ∈ placesOf 16)
    {blocks : Palette}
    (airAs : AirAs start blocks) :
    AirAs start
      (places.foldl (converter.table.waterlogCell primary overlay)
        blocks) := by
  induction places generalizing blocks with
  | nil => exact airAs
  | cons place rest ih =>
      exact ih
        (fun other member => inside other (List.mem_cons_of_mem _ member))
        (keeps.airAs_waterlogCell airAs primary overlay
          (inside place List.mem_cons_self))

theorem airAs_flooded
    (primary : Palette)
    (overlay : Option Palette) :
    AirAs start (converter.table.flooded primary overlay blocks) := by
  cases overlay with
  | none => exact airAs
  | some overlay =>
      change AirAs start (converter.table.waterlog primary overlay blocks)
      rw [MappingTable.waterlog]
      split
      · exact airAs
      · exact keeps.airAs_foldl_waterlogCell primary overlay
          (fun _ member => member) airAs

end Converter.KeepsAir

/--
The visit of a section leaves air where its blocks are mapped to air, and
nowhere else.
-/
theorem Converter.KeepsAir.airAs_visitCells
    {converter : Converter}
    (keeps : converter.KeepsAir)
    (column : Column)
    {primary : Palette}
    (writable : primary.Writable)
    (cube : primary.SectionCube)
    (baseY : Int32) :
    AirAs (primary.mapIds converter.table.destinationOrAir)
      (converter.visitCells column primary baseY).blocks := by
  have start : AirAs (primary.mapIds converter.table.destinationOrAir)
      (primary.mapIds converter.table.destinationOrAir) :=
    ⟨(writable.rewritten_mapIds _).writable, cube.mapIds _, fun _ _ =>
      Iff.rfl⟩
  rw [visitCells_eq]
  exact @VisitPlan.airAs_foldl_visit (converter.plan column primary baseY)
    keeps cube _ (fun _ member => member) _ start

/-! ## The count of a converted section -/

/--
What a cell's primary block is mapped to; air in a section without layers.
-/
def Section.mappedAt
    (content : Section)
    (table : MappingTable)
    (place : Place) : UInt32 :=
  match content.blockAt? 0 place.1 place.2.1 place.2.2 with
  | some source => table.destinationOrAir source
  | none => air

/--
The number of cells of a converted section that hold something other than air.
-/
def TargetSection.filledCells (target : TargetSection) : Nat :=
  (placesOf 16).countP fun place => target.blocks.read place != air

/--
Two tests pass equally often exactly if each passes alone as often as the
other does.
-/
theorem countP_eq_countP_iff
    {α : Type}
    (first second : α → Bool)
    (elements : List α) :
    elements.countP first = elements.countP second ↔
      elements.countP (fun element => !first element && second element) =
        elements.countP fun element => first element && !second element := by
  have balance : elements.countP first +
        elements.countP (fun element => !first element && second element) =
      elements.countP second +
        elements.countP fun element => first element && !second element := by
    induction elements with
    | nil => rfl
    | cons element rest ih =>
        simp only [List.countP_cons]
        cases first element <;> cases second element <;> simp <;> omega
  omega

namespace Converter

variable
    {converter : Converter}
    {column : Column}
    {slot : Nat}
    {content : Section}

theorem section?_convert
    (found : column.section? slot = some content)
    (minY : Int32) :
    (converter.convert column minY).sections[slot]? =
      some (converter.convertSection column minY slot content).1 := by
  have known : column.sections[slot]? = some content := found
  simp [convert, known]

theorem nonAir_eq_countP_mapped
    (checked : content.Checked)
    (minY : Int32) :
    (converter.convertSection column minY slot content).1.nonAir =
      (placesOf 16).countP fun place =>
        content.mappedAt converter.table place != air := by
  cases layer : content.layer? 0 with
  | none =>
      rw [convertSection_of_empty layer, eq_comm, List.countP_eq_zero]
      intro place _
      simp [Section.mappedAt, Section.blockAt?, layer]
  | some primary =>
      rw [convertSection_of_primary layer, nonAir_assembled,
        converter.nonAir_visitCells column (checked.cube layer)]
      apply List.countP_congr
      intro place _
      rw [Section.mappedAt, Section.blockAt?, layer]
      rfl

/--
Where neither records nor water fill or empty a cell, all filled cells are
counted.
-/
theorem KeepsAir.nonAir_eq_filledCells
    (keeps : converter.KeepsAir)
    (checked : content.Checked)
    (small : ∀ palette ∈ content.layers, palette.ids.size ≤ 2 ^ 16)
    (minY : Int32) :
    (converter.convertSection column minY slot content).1.nonAir =
      (converter.convertSection column minY slot content).1.filledCells := by
  cases layer : content.layer? 0 with
  | none =>
      rw [convertSection_of_empty layer, eq_comm, TargetSection.filledCells,
        List.countP_eq_zero]
      intro place _
      rw [show (Palette.blocks air).read place = air from read_filled _ _ _]
      decide
  | some primary =>
      have cube := checked.cube layer
      have writable : primary.Writable :=
        cube.writable (small primary (Array.mem_of_getElem? layer))
      have shown := keeps.airAs_flooded
        (keeps.airAs_visitCells column writable cube (baseY minY slot))
        primary
        (content.layer? 1)
      rw [convertSection_of_primary layer, nonAir_assembled,
        TargetSection.filledCells, blocks_assembled, shown.countP_eq,
        converter.nonAir_visitCells column cube]
      apply List.countP_congr
      intro place member
      rw [cube.toWellFormed.read_mapIds _ (cube.inside_iff.2 member)]

/--
The count of a converted section is that of the cells whose blocks are mapped
to something other than air.  As many cells hold something other than air
exactly if records and water fill as many cells as they empty, which they do
where they neither fill nor empty any and the tables can be numbered.
-/
theorem nonAir_convert_counts_mapped
    (found : column.section? slot = some content)
    (checked : content.Checked)
    (minY : Int32) :
    ∃ target, (converter.convert column minY).sections[slot]? = some target ∧
      target.nonAir =
        (placesOf 16).countP
          (fun place => content.mappedAt converter.table place != air) ∧
      (target.nonAir = target.filledCells ↔
        (placesOf 16).countP (fun place =>
          content.mappedAt converter.table place ==
            air && target.blocks.read place != air) =
        (placesOf 16).countP fun place =>
          content.mappedAt converter.table place !=
            air && target.blocks.read place == air) ∧
      (converter.KeepsAir →
        (∀ palette ∈ content.layers, palette.ids.size ≤ 2 ^ 16) →
        target.nonAir = target.filledCells) := by
  have counted :=
    @nonAir_eq_countP_mapped converter column slot content checked minY
  refine ⟨_, section?_convert found minY, counted, ?_, fun keeps small =>
    keeps.nonAir_eq_filledCells checked small minY⟩
  rw [counted, TargetSection.filledCells, countP_eq_countP_iff]
  simp only [bne, Bool.not_not]

/-- Chests are shown by something other than air, with a record and without. -/
theorem keepsAir_chestConverter : chestConverter.KeepsAir where
  override := by
    intro source record entity state converted override
    simp only [chestConverter, MappingTable.convertEntity?, MappingTable.tag?,
      blocks_chestTable, Option.bind_eq_bind, Option.bind_eq_some_iff,
      Option.pure_def, Option.some.injEq] at converted
    obtain ⟨tag, ⟨block, listed, tagged⟩, typeId, -, rfl⟩ := converted
    have chest : source = 5000 ∧ tag = "chest" := by
      split_ifs at listed with same
      · cases listed
        exact ⟨same, (Option.some.inj tagged).symm⟩
      · cases listed
        cases tagged
    obtain ⟨rfl, rfl⟩ := chest
    have known : chestTable.entityStates["chest"]? = some 9 := by
      simp [chestTable, MappingTable.added]
    obtain rfl : 9 = state := Option.some.inj (known.symm.trans override)
    change _ ↔ chestTable.destinationOrAir 5000 = air
    rw [destinationOrAir_chestTable]
    decide
  waterlogged := by
    intro state wet known
    have listed : chestTable.states =
        (∅ : Std.HashMap UInt32 BlockState).insert air .transparent :=
      rfl
    simp only [chestConverter, MappingTable.waterlogged?, listed,
      Std.HashMap.getElem?_insert, Std.HashMap.getElem?_empty] at known
    split_ifs at known <;> cases known

theorem nonAir_eq_filledCells_chests :
    ∃ target, (chestColumn #[0, 5000]).section? 0 =
        some (.ofLayers #[chestCube #[0, 5000]] none) ∧
      (Section.ofLayers #[chestCube #[0, 5000]] none).Checked ∧
      (chestConverter.convert (chestColumn #[0, 5000]) 0).sections[0]? =
        some target ∧
      target.nonAir = target.filledCells := by
  have found : (chestColumn #[0, 5000]).section? 0 =
      some (.ofLayers #[chestCube #[0, 5000]] none) := rfl
  have checked : (Section.ofLayers #[chestCube #[0, 5000]] none).Checked :=
    chestIds_pair.checked_chestColumn _ (Array.mem_of_getElem? found)
  obtain ⟨target, converted, -, -, counted⟩ :=
    @nonAir_convert_counts_mapped chestConverter _ _ _ found checked 0
  refine ⟨target, found, checked, converted,
    counted keepsAir_chestConverter ?_⟩
  intro palette member
  rw [List.mem_singleton.1 (List.mem_toArray.1 member)]
  decide

/-! ## Masks -/

/--
Masks are shown as air, and by a state of their own once there is a record for
them.
-/
def maskEntries : List MappingTable.Registration :=
  [.block 5000 air "mask", .entity "mask" 1, .entityState "mask" 9]

/-- The table for masks. -/
def maskTable : MappingTable :=
  maskEntries.foldl MappingTable.added (.create 0 0)

/-- The converter for masks. -/
def maskConverter : Converter := ⟨maskTable, maskTable⟩

/-- A column with a section of masks, one of which has a record. -/
def maskColumn : Column where
  pos := ⟨0, 0⟩
  sections := #[.filled 5000]
  entities := #[⟨⟨0, 0, 0⟩, .emptyObject⟩]
  declared := 1

theorem registered_maskTable :
    maskEntries.foldlM MappingTable.register (.create 0 0) =
      .ok maskTable := by
  have fresh : (MappingTable.create 0 0).Admits (.block 5000 air "mask") := by
    simp [MappingTable.Admits, MappingTable.create]
  rw [maskEntries, List.foldlM_cons,
    MappingTable.register_eq_ok_iff.2 ⟨fresh, rfl⟩]
  rfl

theorem blocks_maskTable :
    maskTable.blocks[(5000 : UInt32)]? = some ⟨air, some "mask"⟩ :=
  Std.HashMap.getElem?_insert_self

theorem destinationOrAir_mask : maskTable.destinationOrAir 5000 = air := by
  rw [MappingTable.destinationOrAir, MappingTable.destination?,
    blocks_maskTable]
  rfl

theorem checked_masks : (Section.filled 5000).Checked where
  shape := by cbv
  layers := by
    intro palette member
    rw [List.mem_singleton.1 (List.mem_toArray.1 member)]
    exact wellFormed_filled _ _
  biomes := by
    intro palette member
    cases member

theorem fits_masks : maskConverter.Fits (.filled 5000) where
  checked := checked_masks
  room := by
    rintro primary ⟨rfl⟩
    have states : maskTable.entityStates.size = 1 := by
      simp [maskTable, maskEntries, MappingTable.added, MappingTable.create,
        Std.HashMap.size_insert]
    refine ⟨by decide, fun _ => ?_⟩
    change 1 + maskTable.entityStates.size ≤ _
    rw [states]
    decide

/-- The mask with a record is shown by the state for it. -/
theorem stateFor_mask
    (pos : BlockPos)
    {record : SourceEntity}
    (known : maskColumn.entityAt? pos = some record) :
    maskConverter.stateFor maskColumn pos 5000 = 9 := by
  have tag : maskTable.tag? 5000 = some "mask" := by
    rw [MappingTable.tag?, blocks_maskTable]
    rfl
  have type : maskTable.entityType? "mask" = some 1 := by
    simp [maskTable, maskEntries, MappingTable.added,
      MappingTable.entityType?]
  have owned : maskTable.ownsEntity "mask" = true := by
    simp [maskTable, maskEntries, MappingTable.added, MappingTable.ownsEntity]
  have state : maskTable.entityStates["mask"]? = some 9 := by
    simp [maskTable, maskEntries, MappingTable.added]
  have owner : maskConverter.ownerTag? 5000 = some "mask" := by
    change (maskTable.tag? 5000).filter maskTable.ownsEntity = some "mask"
    rw [tag]
    simp [Option.filter, owned]
  have converted :
      ∃ entity, maskTable.convertEntity? 5000 record = some entity ∧
      entity.stateOverride = some 9 := by
    simp [MappingTable.convertEntity?, tag, type, state]
  obtain ⟨entity, converted, override⟩ := converted
  have found : maskConverter.entityFor? maskColumn pos 5000 =
      some entity := by
    rw [entityFor?, owner, Option.bind_some, known]
    exact converted
  rw [stateFor, found, Option.bind_some, override]
  rfl

/--
None of the masks is counted, though one is shown by something other than air.
-/
theorem nonAir_ne_filledCells_of_mask :
    ∃ target, maskEntries.foldlM MappingTable.register (.create 0 0) =
      .ok maskTable ∧
      maskColumn.section? 0 = some (.filled 5000) ∧
      (Section.filled 5000).Checked ∧
      (maskConverter.convert maskColumn 0).sections[0]? = some target ∧
      target.nonAir ≠ target.filledCells := by
  have found : maskColumn.section? 0 = some (.filled 5000) := rfl
  refine
    ⟨_, registered_maskTable, found, checked_masks, section?_convert found 0, ?_⟩
  have uncounted :
      (maskConverter.convertSection maskColumn 0 0 (.filled 5000)).1.nonAir =
        0 := by
    rw [nonAir_eq_countP_mapped checked_masks, List.countP_eq_zero]
    intro place _
    have mapped : (Section.filled 5000).mappedAt maskTable place = air :=
      (congrArg maskTable.destinationOrAir
        (read_filled blockEdgeBits 5000 place)).trans
        destinationOrAir_mask
    have same : maskConverter.table = maskTable := rfl
    rw [same, mapped]
    decide
  have shown :
      (maskConverter.convertSection maskColumn 0 0
        (.filled 5000)).1.blocks.read
      (0, 0, 0) = 9 := by
    rw [fits_masks.read_convertSection rfl maskColumn 0 0 (by decide)]
    exact @stateFor_mask ⟨0, 0, 0⟩ ⟨⟨0, 0, 0⟩, .emptyObject⟩ rfl
  rw [uncounted]
  apply Nat.ne_of_lt
  rw [TargetSection.filledCells, List.countP_pos_iff]
  exact ⟨(0, 0, 0), by decide, by rw [shown]; decide⟩

end Converter

end VoxelRelay
