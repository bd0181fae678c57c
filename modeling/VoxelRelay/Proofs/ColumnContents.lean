import VoxelRelay.Proofs.Downsampling
import VoxelRelay.Proofs.Heights
import VoxelRelay.Proofs.SectionConversion

/-!
# Columns with the same content

How a column is converted depends on what its cells hold and on its records,
not on the tables of its palettes, as long as those have room for the states
that records put in place of mapped ones.

Without that room it does not.  A table with as many entries as a section has
cells is compacted by the first such state, which renumbers the cells that are
still to be visited, and their block entities are looked up under numbers that
are no longer theirs.
-/

namespace VoxelRelay

open Palette

/-! ## Content -/

/--
What the cells of a section hold: its layers, and its biomes if they are
known.
-/
def Section.cells (content : Section) :
    Array (List UInt32) × Option (List UInt32) :=
  (content.layers.map (·.toList), content.biomes.map (·.toList))

/--
What the cells of a converted section hold, and how many hold something other
than air.
-/
def TargetSection.cells (content : TargetSection) :
    List UInt32 × List UInt32 × Nat :=
  (content.blocks.toList, content.biomes.toList, content.nonAir)

/-- Two columns with the same content, however their palettes represent it. -/
structure Column.SameContent (left right : Column) : Prop where
  pos : left.pos = right.pos
  records : ∀ pos, left.entityAt? pos = right.entityAt? pos
  sections : left.sections.map (·.cells) = right.sections.map (·.cells)

/--
Two converted columns with the same content, however their palettes represent
it.
-/
structure TargetColumn.SameContent (left right : TargetColumn) : Prop where
  pos : left.pos = right.pos
  sections : left.sections.map (·.cells) = right.sections.map (·.cells)
  heightmaps : left.heightmaps = right.heightmaps
  entities : left.entities = right.entities

/-! ## Sections with the same content -/

theorem Section.layer?_cases
    {left right : Section}
    (same : left.cells = right.cells)
    (layer : Nat) :
    (left.layer? layer = none ∧ right.layer? layer = none) ∨
      ∃ lower upper, left.layer? layer = some lower ∧
        right.layer? layer = some upper ∧
        lower.toList = upper.toList := by
  have listed : (left.layer? layer).map (·.toList) =
      (right.layer? layer).map (·.toList) := by
    have layers := congrArg (·.1[layer]?) same
    simpa [cells, layer?] using layers
  cases lower : left.layer? layer with
  | none =>
      cases upper : right.layer? layer with
      | none => exact Or.inl ⟨rfl, rfl⟩
      | some palette =>
          rw [lower, upper] at listed
          cases listed
  | some palette =>
      cases upper : right.layer? layer with
      | none =>
          rw [lower, upper] at listed
          cases listed
      | some other =>
          rw [lower, upper] at listed
          exact Or.inr ⟨palette, other, rfl, rfl, Option.some.inj listed⟩

namespace Converter

/--
Sections with the same content in columns at the same position with the same
records.
-/
structure Counterparts
    (converter : Converter)
    (left right : Column)
    (lower upper : Section) : Prop where
  pos : left.pos = right.pos
  records : ∀ pos, left.entityAt? pos = right.entityAt? pos
  lowerFits : converter.Fits lower
  upperFits : converter.Fits upper
  cells : lower.cells = upper.cells

namespace Counterparts

variable
    {converter : Converter}
    {left right : Column}
    {minY : Int32}
    {slot : Nat}
    {lower upper : Section}
    {lowerPrimary upperPrimary : Palette}
    {place : Place}
    (alike : converter.Counterparts left right lower upper)
include alike

/-- Layers of the same number hold the same at every place. -/
theorem read_layer
    {layer : Nat}
    {lowerLayer upperLayer : Palette}
    (lowerFound : lower.layer? layer = some lowerLayer)
    (upperFound : upper.layer? layer = some upperLayer)
    (member : place ∈ placesOf 16) :
    lowerLayer.read place = upperLayer.read place := by
  have lowerCube := alike.lowerFits.checked.cube lowerFound
  have upperCube := alike.upperFits.checked.cube upperFound
  rcases Section.layer?_cases alike.cells layer with
    ⟨missing, -⟩ | ⟨_, _, found, known, same⟩
  · rw [missing] at lowerFound
    cases lowerFound
  · rw [lowerFound] at found
    rw [upperFound] at known
    cases found
    cases known
    apply lowerCube.toWellFormed.read_eq_of_toList_eq
      upperCube.toWellFormed same
    exact lowerCube.inside_iff.2 member

theorem entity?_eq
    (read : lowerPrimary.read place = upperPrimary.read place) :
    (converter.planFor left minY slot lowerPrimary).entity? place =
      (converter.planFor right minY slot upperPrimary).entity? place := by
  simp only [VisitPlan.entity?, entityFor?, VisitPlan.position, planFor, plan,
    alike.pos, alike.records, read]

theorem state_eq (read : lowerPrimary.read place = upperPrimary.read place) :
    (converter.planFor left minY slot lowerPrimary).state place =
      (converter.planFor right minY slot upperPrimary).state place := by
  rw [VisitPlan.state_eq, VisitPlan.state_eq, alike.entity?_eq read]
  exact congrArg (Option.getD _ ∘ converter.table.destinationOrAir) read

theorem floodedState_eq
    (table : MappingTable)
    (member : place ∈ placesOf 16)
    (read : lowerPrimary.read place = upperPrimary.read place)
    (state : UInt32) :
    table.floodedState lowerPrimary (lower.layer? 1) place state =
      table.floodedState upperPrimary (upper.layer? 1) place state := by
  rcases Section.layer?_cases alike.cells 1 with
    ⟨missing, absent⟩ | ⟨overlay, other, found, known, -⟩
  · rw [missing, absent]
    rfl
  · have above := alike.read_layer found known member
    rw [found, known]
    simp only [MappingTable.floodedState, read, above]

variable (minY : Int32) (slot : Nat)

/-- Counterparts are converted to the same blocks. -/
theorem read_convertSection (member : place ∈ placesOf 16) :
    (converter.convertSection left minY slot lower).1.blocks.read place =
      (converter.convertSection right minY slot upper).1.blocks.read
        place := by
  rcases Section.layer?_cases alike.cells 0 with
    ⟨missing, absent⟩ | ⟨primary, other, found, known, -⟩
  · rw [convertSection_of_empty missing, convertSection_of_empty absent]
  · have below := alike.read_layer found known member
    rw [alike.lowerFits.read_convertSection found left minY slot member,
      alike.upperFits.read_convertSection known right minY slot member,
      alike.state_eq below, alike.floodedState_eq _ member below]

theorem nonAir_convertSection :
    (converter.convertSection left minY slot lower).1.nonAir =
      (converter.convertSection right minY slot upper).1.nonAir := by
  rcases Section.layer?_cases alike.cells 0 with
    ⟨missing, absent⟩ | ⟨primary, other, found, known, -⟩
  · rw [convertSection_of_empty missing, convertSection_of_empty absent]
  · rw [alike.lowerFits.nonAir_convertSection found,
      alike.upperFits.nonAir_convertSection known]
    apply List.countP_congr
    intro place member
    have mapped : (converter.planFor left minY slot primary).mapped place =
        (converter.planFor right minY slot other).mapped place :=
      congrArg converter.table.destinationOrAir
        (alike.read_layer found known member)
    rw [mapped]

theorem entities_convertSection :
    (converter.convertSection left minY slot lower).2 =
      (converter.convertSection right minY slot upper).2 := by
  rcases Section.layer?_cases alike.cells 0 with
    ⟨missing, absent⟩ | ⟨primary, other, found, known, -⟩
  · rw [convertSection_of_empty missing, convertSection_of_empty absent]
  · apply Array.toList_inj.1
    rw [alike.lowerFits.toList_entities_convertSection found,
      alike.upperFits.toList_entities_convertSection known]
    apply List.filterMap_congr
    intro place member
    rw [alike.entity?_eq (alike.read_layer found known member)]

theorem toList_biomes_convertSection :
    (converter.convertSection left minY slot lower).1.biomes.toList =
      (converter.convertSection right minY slot upper).1.biomes.toList := by
  have lowerChecked := alike.lowerFits.checked
  rw [biomes_convertSection, biomes_convertSection]
  apply converter.table.toList_convertBiomes_congr
  · exact fun palette found =>
      ⟨lowerChecked.biomes palette found, lowerChecked.biomes_edge found⟩
  · exact alike.upperFits.checked.biomes
  · exact congrArg (·.2) alike.cells

/-- Counterparts are converted to the same content. -/
theorem cells_convertSection :
    (converter.convertSection left minY slot lower).1.cells =
      (converter.convertSection right minY slot upper).1.cells := by
  have lowerCube := alike.lowerFits.cube_convertSection left minY slot
  have upperCube := alike.upperFits.cube_convertSection right minY slot
  have blocks :
      (converter.convertSection left minY slot lower).1.blocks.toList =
      (converter.convertSection right minY slot upper).1.blocks.toList := by
    rw [lowerCube.toWellFormed.toList_eq_iff upperCube.toWellFormed
      (lowerCube.edgeBits_eq.trans upperCube.edgeBits_eq.symm)]
    intro place inside
    exact alike.read_convertSection minY slot (lowerCube.inside_iff.1 inside)
  rw [TargetSection.cells, TargetSection.cells, blocks,
    alike.toList_biomes_convertSection minY slot,
    alike.nonAir_convertSection minY slot]

end Counterparts

/-! ## Whole columns -/

theorem counterparts_of_sameContent
    {converter : Converter}
    {left right : Column}
    (same : left.SameContent right)
    (leftFits : ∀ content ∈ left.sections, converter.Fits content)
    (rightFits : ∀ content ∈ right.sections, converter.Fits content)
    {slot : Nat}
    (below : slot < left.sections.size)
    (above : slot < right.sections.size) :
    converter.Counterparts left right left.sections[slot]
      right.sections[slot] where
  pos := same.pos
  records := same.records
  lowerFits := leftFits _ (Array.getElem_mem below)
  upperFits := rightFits _ (Array.getElem_mem above)
  cells := by
    have listed := congrArg (·[slot]?) same.sections
    simpa [below, above] using listed

theorem sections_convert
    (converter : Converter)
    (column : Column)
    (minY : Int32) :
    (converter.convert column minY).sections =
      (column.sections.mapIdx (converter.convertSection column minY)).map
        (·.1) :=
  rfl

theorem entities_convert
    (converter : Converter)
    (column : Column)
    (minY : Int32) :
    (converter.convert column minY).entities =
      (column.sections.mapIdx (converter.convertSection column minY)).flatMap
        (·.2) :=
  rfl

theorem entities_convert_of_alone
    (converter : Converter)
    {column : Column}
    {content : Section}
    (alone : column.sections = #[content])
    (minY : Int32) :
    (converter.convert column minY).entities =
      (converter.convertSection column minY 0 content).2 := by
  rw [entities_convert, alone]
  simp

theorem palettes_convert_of_alone
    (converter : Converter)
    {column : Column}
    {content : Section}
    (alone : column.sections = #[content])
    (minY : Int32) :
    (converter.convert column minY).palettes =
      #[(converter.convertSection column minY 0 content).1.blocks] := by
  rw [TargetColumn.palettes, sections_convert, alone]
  simp

theorem heightmaps_convert
    (converter : Converter)
    (column : Column)
    (minY : Int32) :
    (converter.convert column minY).heightmaps =
      .ofSections converter.table
        (converter.convert column minY).palettes minY :=
  rfl

/--
Columns with the same content are converted to columns with the same content.
-/
theorem sameContent_convert
    {converter : Converter}
    {left right : Column}
    (same : left.SameContent right)
    (leftFits : ∀ content ∈ left.sections, converter.Fits content)
    (rightFits : ∀ content ∈ right.sections, converter.Fits content)
    (minY : Int32) :
    (converter.convert left minY).SameContent
      (converter.convert right minY) := by
  have sizes : left.sections.size = right.sections.size := by
    simpa using congrArg Array.size same.sections
  have alike :
      ∀ slot (below : slot < left.sections.size)
        (above : slot < right.sections.size),
      converter.Counterparts left right left.sections[slot]
        right.sections[slot] :=
    fun slot below above =>
      counterparts_of_sameContent same leftFits rightFits below above
  refine ⟨same.pos, ?_, ?_, ?_⟩
  · rw [sections_convert, sections_convert]
    apply Array.ext
    · simp [sizes]
    · intro slot below above
      simp only [Array.size_map, Array.size_mapIdx] at below above
      simpa using (alike slot below above).cells_convertSection minY slot
  · rw [heightmaps_convert, heightmaps_convert]
    apply SameStack.heightmaps_eq
    constructor
    · simp [TargetColumn.palettes, sections_convert, sizes]
    · intro slot lower upper found known place member
      simp only [TargetColumn.palettes, sections_convert, Array.getElem?_map,
        Array.getElem?_mapIdx, Option.map_map, Option.map_eq_some_iff]
        at found known
      obtain ⟨lowerContent, here, rfl⟩ := found
      obtain ⟨upperContent, there, rfl⟩ := known
      obtain ⟨below, rfl⟩ := Array.getElem?_eq_some_iff.1 here
      obtain ⟨above, rfl⟩ := Array.getElem?_eq_some_iff.1 there
      exact (alike slot below above).read_convertSection minY slot member
  · have lists :
        (left.sections.mapIdx (converter.convertSection left minY)).map
          (·.2) =
        (right.sections.mapIdx (converter.convertSection right minY)).map
          (·.2) := by
      apply Array.ext
      · simp [sizes]
      · intro slot below above
        simp only [Array.size_map, Array.size_mapIdx] at below above
        simpa using (alike slot below above).entities_convertSection minY slot
    rw [entities_convert, entities_convert, Array.flatMap_def,
      Array.flatMap_def, lists]

/-! ## Two chests -/

/--
A table by which chests are shown, those with a record by a state of their
own.
-/
def chestTable : MappingTable :=
  [.block 5000 7 "chest", .entity "chest" 1, .entityState "chest" 9].foldl
    MappingTable.added (.create 0 0)

/-- The converter for chests. -/
def chestConverter : Converter := ⟨chestTable, chestTable⟩

theorem blocks_chestTable (source : UInt32) :
    chestTable.blocks[source]? =
      if source = 5000 then some ⟨7, some "chest"⟩
      else if source = 0 then some ⟨air, none⟩ else none := by
  have listed : chestTable.blocks =
      ((∅ : Std.HashMap UInt32 SourceBlock).insert 0 ⟨air, none⟩).insert 5000
        ⟨7, some "chest"⟩ := rfl
  rw [listed, Std.HashMap.getElem?_insert, Std.HashMap.getElem?_insert,
    Std.HashMap.getElem?_empty]
  simp only [beq_iff_eq, @eq_comm _ _ source]

theorem destinationOrAir_chestTable (source : UInt32) :
    chestTable.destinationOrAir source = if source = 5000 then 7 else 0 := by
  rw [MappingTable.destinationOrAir, MappingTable.destination?,
    blocks_chestTable]
  split_ifs <;> rfl

theorem ownerTag?_chestConverter (source : UInt32) :
    chestConverter.ownerTag? source = if source = 5000 then some
      "chest" else none := by
  have known : chestTable.ownsEntity "chest" = true := by
    simp [chestTable, MappingTable.added, MappingTable.ownsEntity]
  have tag : chestTable.tag? source = if source = 5000 then some
      "chest" else none := by
    rw [MappingTable.tag?, blocks_chestTable]
    split_ifs <;> rfl
  show (chestTable.tag? source).filter chestTable.ownsEntity = _
  rw [tag]
  split_ifs
  · simp [Option.filter, known]
  · rfl

/--
The table entry of a cell: the last one for the cell in the corner and the one
above it.
-/
def chestIndex (ids : Array UInt32) (cell : Nat) : UInt16 :=
  if cell = 0 ∨ cell = 256 then (ids.size - 1).toUInt16 else 0

/--
Two chests in a section of air, by a table with air first and chests last.
-/
def chestCube (ids : Array UInt32) : Palette where
  edgeBits := blockEdgeBits
  ids := ids
  indices :=
    .ofFn (PackedIndices.widthFor ids.size) (cellCount blockEdgeBits)
      (chestIndex ids)

theorem indices_chestCube (ids : Array UInt32) :
    (chestCube ids).indices =
      .ofFn (PackedIndices.widthFor ids.size) (cellCount blockEdgeBits)
        (chestIndex ids) := by
  rw [chestCube]

/-- A column with two chests, the lower of which has a record. -/
def chestColumn (ids : Array UInt32) : Column where
  pos := ⟨0, 0⟩
  sections := #[.ofLayers #[chestCube ids] none]
  entities := #[⟨⟨0, 0, 0⟩, .emptyObject⟩]
  declared := 1

/-- A table with air first and chests last. -/
structure ChestIds (ids : Array UInt32) : Prop where
  several : 1 < ids.size
  size_le : ids.size ≤ 4096
  first : ids[0]? = some 0
  last : ids[ids.size - 1]? = some 5000

namespace ChestIds

variable {ids other : Array UInt32} (table : ChestIds ids)
include table

theorem toNat_chestIndex_lt (cell : Nat) :
    (chestIndex ids cell).toNat < ids.size := by
  have several := table.several
  have few := table.size_le
  have whole : (ids.size - 1).toUInt16.toNat = ids.size - 1 :=
    Nat.mod_eq_of_lt (by omega)
  unfold chestIndex
  split
  · omega
  · exact Nat.zero_lt_of_lt several

theorem get_chestCube
    {cell : Nat}
    (inside : cell < cellCount blockEdgeBits) :
    (chestCube ids).indices.get cell = chestIndex ids cell := by
  rw [indices_chestCube]
  refine PackedIndices.get_ofFn (PackedIndices.supported_widthFor _)
    (fun cell _ => ?_) inside
  have narrow := toNat_toUInt16_lt (table.toNat_chestIndex_lt cell)
  rwa [Nat.toUInt16_eq, UInt16.ofNat_toNat] at narrow

theorem sectionCube_chestCube : (chestCube ids).SectionCube where
  sized := by
    rw [indices_chestCube]
    exact PackedIndices.wellSized_ofFn
      (PackedIndices.supported_widthFor _) _ _
  width_eq := by
    rw [width, indices_chestCube, PackedIndices.width_ofFn]
    rfl
  size_eq := by
    rw [size, indices_chestCube, PackedIndices.size_ofFn]
    rfl
  ids_pos := Nat.zero_lt_of_lt table.several
  index_lt := by
    intro cell inside
    have below : cell < cellCount blockEdgeBits := by
      rwa [size, indices_chestCube, PackedIndices.size_ofFn] at inside
    rw [table.get_chestCube below]
    exact table.toNat_chestIndex_lt cell
  edgeBits_eq := rfl

theorem read_chestCube
    {place : Place}
    (member : place ∈ placesOf 16) :
    (chestCube ids).read place = if place = (0, 0, 0) ∨ place = (0, 1, 0) then
      5000 else 0 := by
  obtain ⟨x, y, z⟩ := place
  obtain ⟨xLt, yLt, zLt⟩ := mem_placesOf_iff.1 member
  simp only at xLt yLt zLt
  have several := table.several
  have few := table.size_le
  have whole : (ids.size - 1).toUInt16.toNat = ids.size - 1 :=
    Nat.mod_eq_of_lt (by omega)
  rw [Palette.read, idAt, table.sectionCube_chestCube.cell_eq, idAtCell,
    table.get_chestCube (show (y * 16 + z) * 16 + x < 4096 by omega),
    chestIndex]
  have places : ((y * 16 + z) * 16 + x = 0 ∨ (y * 16 + z) * 16 + x = 256) ↔
      ((x, y, z) = (0, 0, 0) ∨ (x, y, z) = (0, 1, 0)) := by
    simp only [Prod.mk.injEq]
    omega
  by_cases chest : (x, y, z) = (0, 0, 0) ∨ (x, y, z) = (0, 1, 0)
  · rw [if_pos (places.2 chest), if_pos chest, whole,
      Array.getD_eq_getD_getElem?]
    exact congrArg (·.getD 0) table.last
  · rw [if_neg (mt places.1 chest), if_neg chest, Array.getD_eq_getD_getElem?]
    exact congrArg (·.getD 0) table.first

theorem checked_chestColumn :
    ∀ content ∈ (chestColumn ids).sections, content.Checked := by
  intro content member
  obtain rfl : content = .ofLayers #[chestCube ids] none := by
    simpa [chestColumn] using member
  have cube := table.sectionCube_chestCube
  refine ⟨?_, ?_, ?_⟩
  · simp [Section.checkShape, Section.ofLayers, maxLayers, sectionEdge,
      cube.edge_eq]
  · intro palette member
    obtain rfl : palette = chestCube ids := by
      simpa [Section.ofLayers] using member
    exact cube.toWellFormed
  · intro palette member
    cases member

theorem fits_chestColumn (room : ids.size < 4096) :
    ∀ content ∈ (chestColumn ids).sections, chestConverter.Fits content := by
  intro content member
  refine ⟨table.checked_chestColumn content member, ?_⟩
  obtain rfl : content = .ofLayers #[chestCube ids] none := by
    simpa [chestColumn] using member
  intro primary found
  obtain rfl : chestCube ids = primary := by
    simpa [Section.ofLayers, Section.layer?] using found
  have states : chestConverter.entities.entityStates.size = 1 := by
    simp [chestConverter, chestTable, MappingTable.added, MappingTable.create,
      Std.HashMap.size_insert]
  refine ⟨Nat.le_trans table.size_le (by decide), fun _ => ?_⟩
  rw [states, table.sectionCube_chestCube.size_eq_4096]
  exact room

end ChestIds

/-- What the section holds does not depend on its table. -/
theorem sameContent_chestColumn
    {ids other : Array UInt32}
    (table : ChestIds ids)
    (otherTable : ChestIds other) :
    (chestColumn ids).SameContent (chestColumn other) where
  pos := rfl
  records := fun _ => rfl
  sections := by
    have cube := table.sectionCube_chestCube
    have same : (chestCube ids).toList = (chestCube other).toList := by
      rw [cube.toWellFormed.toList_eq_iff
        otherTable.sectionCube_chestCube.toWellFormed rfl]
      intro place inside
      have member := cube.inside_iff.1 inside
      rw [table.read_chestCube member, otherTable.read_chestCube member]
    simp [chestColumn, Section.ofLayers, Section.cells, same]

theorem chestIds_pair : ChestIds #[0, 5000] :=
  ⟨by decide, by decide, rfl, rfl⟩

/-- An entry that no cell refers to makes no difference. -/
theorem sameContent_convert_chests :
    (chestColumn #[0, 5000]).SameContent (chestColumn #[0, 1, 5000]) ∧
      (chestConverter.convert (chestColumn #[0, 5000]) 0).SameContent
        (chestConverter.convert (chestColumn #[0, 1, 5000]) 0) := by
  have spare : ChestIds #[0, 1, 5000] := ⟨by decide, by decide, rfl, rfl⟩
  have same := sameContent_chestColumn chestIds_pair spare
  exact ⟨same,
    sameContent_convert same (chestIds_pair.fits_chestColumn (by decide))
    (spare.fits_chestColumn (by decide)) 0⟩

/-! ## The chests of a crowded table -/

theorem entityFor?_chest
    {column : Column}
    {pos : BlockPos}
    (free : column.entityAt? pos = none) :
    chestConverter.entityFor? column pos 5000 = some (.empty pos 1) := by
  have known : chestTable.entityType? "chest" = some 1 := by
    simp [chestTable, MappingTable.added, MappingTable.entityType?]
  rw [entityFor?, ownerTag?_chestConverter, if_pos rfl, Option.bind_some,
    free]
  exact congrArg (Option.map _) known

theorem entityFor?_chest_of_record
    {column : Column}
    {pos : BlockPos}
    {record : SourceEntity}
    (known : column.entityAt? pos = some record) :
    chestConverter.entityFor? column pos 5000 =
      some { TargetEntity.empty record.position 1 with
        data := record.data
        stateOverride := some 9 } := by
  have tag : chestTable.tag? 5000 = some "chest" := by
    rw [MappingTable.tag?, blocks_chestTable]
    rfl
  have type : chestTable.entityType? "chest" = some 1 := by
    simp [chestTable, MappingTable.added, MappingTable.entityType?]
  have state : chestTable.entityStates["chest"]? = some 9 := by
    simp [chestTable, MappingTable.added]
  rw [entityFor?, ownerTag?_chestConverter, if_pos rfl, Option.bind_some,
    known]
  show chestTable.convertEntity? 5000 record = _
  simp only [MappingTable.convertEntity?, tag, type, state,
    Option.bind_eq_bind, Option.bind_some, Option.pure_def]

/-- The plan for the section of chests in its column. -/
def chestPlan (ids : Array UInt32) : VisitPlan :=
  chestConverter.planFor (chestColumn ids) 0 0 (chestCube ids)

theorem primary_chestPlan (ids : Array UInt32) :
    (chestPlan ids).primary = chestCube ids := by
  rw [chestPlan, planFor, plan]

theorem indices_start_chestPlan (ids : Array UInt32) :
    (chestPlan ids).start.indices = (chestCube ids).indices := by
  rw [VisitPlan.start, mapIds, primary_chestPlan]

section

variable {ids : Array UInt32} (table : ChestIds ids)
include table

theorem sound_chestPlan : (chestPlan ids).Sound :=
  ⟨table.sectionCube_chestCube, rfl⟩

theorem entity?_chestPlan
    {y : Nat}
    (chest : y = 0 ∨ y = 1) :
    (chestPlan ids).entity? (0, y, 0) =
      chestConverter.entityFor? (chestColumn ids) ⟨0, .ofNat y, 0⟩ 5000 := by
  have member : (0, y, 0) ∈ placesOf 16 := by
    rw [mem_placesOf_iff]
    dsimp only
    omega
  have read : (chestCube ids).read (0, y, 0) = 5000 := by
    rw [table.read_chestCube member, if_pos (by simpa using chest)]
  have pos : (chestPlan ids).position 0 y 0 = ⟨0, .ofNat y, 0⟩ := by
    simp [chestPlan, planFor, plan, VisitPlan.position, chestColumn, baseY]
  rw [VisitPlan.entity?, pos]
  exact congrArg _ read

theorem entity?_lowerChest :
    (chestPlan ids).entity? (0, 0, 0) =
      some
        { TargetEntity.empty ⟨0, 0, 0⟩ 1 with stateOverride := some 9 } := by
  have known : (chestColumn ids).entityAt? ⟨0, .ofNat 0, 0⟩ =
      some ⟨⟨0, 0, 0⟩, .emptyObject⟩ := by
    simp [chestColumn, Column.entityAt?]
  rw [entity?_chestPlan table (Or.inl rfl), entityFor?_chest_of_record known]
  rfl

theorem entity?_upperChest :
    (chestPlan ids).entity? (0, 1, 0) = some (.empty ⟨0, 1, 0⟩ 1) := by
  have free : (chestColumn ids).entityAt? ⟨0, .ofNat 1, 0⟩ = none := by
    simp [chestColumn, Column.entityAt?]
  rw [entity?_chestPlan table (Or.inr rfl), entityFor?_chest free]
  rfl

end

/--
A table with as many entries as a section has cells, the first three of which
are no chests.
-/
structure CrowdedIds (ids : Array UInt32) : Prop extends ChestIds ids where
  crowded : ids.size = 4096
  plain : ∀ entry, entry < 3 → ∃ id, id ≠ 5000 ∧ ids[entry]? = some id

namespace CrowdedIds

variable {ids : Array UInt32} (table : CrowdedIds ids)
include table

/-- The first state of a record leaves no entries but the three in use. -/
theorem size_ids_write :
    ((chestPlan ids).start.write (0, 0, 0) 9).ids.size ≤ 3 := by
  have size : (chestPlan ids).start.size = 4096 := by
    rw [size, indices_start_chestPlan, ← Palette.size,
      table.sectionCube_chestCube.size_eq_4096]
  have listed : (chestPlan ids).start.ids =
      ids.map chestTable.destinationOrAir := rfl
  have full : (chestPlan ids).start.size ≤
      (chestPlan ids).start.ids.size := by
    rw [size, listed, Array.size_map, table.crowded]
  have fresh : 9 ∉ (chestPlan ids).start.ids := by
    rw [listed, Array.mem_map]
    rintro ⟨source, -, shown⟩
    rw [destinationOrAir_chestTable] at shown
    split_ifs at shown <;> cases shown
  -- Only air and chests are in use.
  have used : (chestPlan ids).start.usedList ⊆ [0, 4095] := by
    intro entry member
    obtain ⟨inside, kept⟩ := List.mem_filter.1 member
    obtain ⟨cell, below, rfl⟩ := (isUsed_iff (List.mem_range.1 inside)).1 kept
    rw [size] at below
    rw [indices_start_chestPlan, table.get_chestCube below, chestIndex,
      table.crowded]
    split_ifs <;> simp
  have few := (List.nodup_range.filter _).length_le_of_subset used
  rw [Palette.write, setIdAt, size_ids_setIdAtCell_of_full full fresh]
  exact Nat.succ_le_succ few

/-- No block entity is found for an entry that is no chest. -/
theorem unmoved_visit
    {visit : CellVisit}
    {place : Place}
    (formed : visit.blocks.WellFormed)
    (few : visit.blocks.ids.size ≤ 3)
    (inside : visit.blocks.Inside place) :
    ((chestPlan ids).visit visit place).blocks = visit.blocks ∧
      ((chestPlan ids).visit visit place).entities = visit.entities := by
  have bound := formed.index_lt _ (formed.number_lt inside)
  generalize entry :
      (visit.blocks.indices.get (visit.blocks.number place)).toNat =
        index at bound
  have owner : (chestPlan ids).owners[index]? = some none := by
    obtain ⟨id, other, found⟩ := table.plain index (by omega)
    have owners : (chestPlan ids).owners = ids.map chestConverter.ownerTag? :=
      rfl
    rw [owners, Array.getElem?_map, found, Option.map_some,
      ownerTag?_chestConverter, if_neg other]
  rw [VisitPlan.visit_unfold, entry, owner]
  cases visit.blocks.id? index with
  | none => exact ⟨rfl, rfl⟩
  | some state =>
      exact ⟨visit.blocks_counted state, visit.entities_counted state⟩

theorem entities_foldl_visit
    {visit : CellVisit}
    (formed : visit.blocks.WellFormed)
    (few : visit.blocks.ids.size ≤ 3)
    {places : List Place}
    (inside : ∀ place ∈ places, visit.blocks.Inside place) :
    (places.foldl (chestPlan ids).visit visit).entities = visit.entities := by
  induction places generalizing visit with
  | nil => rfl
  | cons place places ih =>
      obtain ⟨blocks, entities⟩ :=
        table.unmoved_visit formed few (inside place List.mem_cons_self)
      rw [List.foldl_cons, ih, entities]
      · rwa [blocks]
      · rwa [blocks]
      · intro other member
        rw [blocks]
        exact inside other (List.mem_cons_of_mem _ member)

/-- The lower chest is found first, and after it nothing is. -/
theorem entities_visitCells :
    (chestConverter.visitCells (chestColumn ids) (chestCube ids)
      (baseY 0 0)).entities =
      #[{ TargetEntity.empty ⟨0, 0, 0⟩ 1 with stateOverride := some 9 }] := by
  have cube := table.sectionCube_chestCube
  have writable : (chestCube ids).Writable :=
    cube.writable (table.size_le.trans (by decide))
  obtain ⟨rest, listed⟩ := exists_placesOf_succ 15
  have inside : ∀ place ∈ (0, 0, 0) :: rest,
      (chestCube ids).Inside place := by
    intro place member
    exact cube.inside_iff.2 (listed ▸ member)
  have aligned :
      (chestPlan ids).Aligned (chestPlan ids).start ((0, 0, 0) :: rest) :=
    VisitPlan.aligned_start writable _
  have first :=
    @VisitPlan.Traces.visit_eq _ (0, 0, 0) ⟨(chestPlan ids).start, #[], 0⟩
      aligned.traces (sound_chestPlan table.toChestIds)
      (inside _ List.mem_cons_self)
  rw [entity?_lowerChest table.toChestIds] at first
  have blocks :
      ((chestPlan ids).visit ⟨(chestPlan ids).start, #[], 0⟩
        (0, 0, 0)).blocks =
      (chestPlan ids).start.write (0, 0, 0) 9 := by
    rw [first, CellVisit.blocks_attach, CellVisit.blocks_counted]
    rfl
  have entities :
      ((chestPlan ids).visit ⟨(chestPlan ids).start, #[], 0⟩
        (0, 0, 0)).entities =
      #[{ TargetEntity.empty ⟨0, 0, 0⟩ 1 with stateOverride := some 9 }] := by
    apply Array.toList_inj.1
    rw [first, CellVisit.entities_attach, CellVisit.entities_counted]
    rfl
  have written :
      Rewritten (chestPlan ids).start
        ((chestPlan ids).start.write (0, 0, 0) 9) _ :=
          aligned.writable.rewritten_write
            (aligned.inside_iff.2 (inside _ List.mem_cons_self)) 9
  have visited :
      chestConverter.visitCells (chestColumn ids) (chestCube ids)
        (baseY 0 0) =
      rest.foldl (chestPlan ids).visit
        ((chestPlan ids).visit ⟨(chestPlan ids).start, #[], 0⟩
          (0, 0, 0)) := by
    rw [visitCells_eq, listed, List.foldl_cons]
    rfl
  rw [visited, table.entities_foldl_visit, entities]
  · rw [blocks]
    exact written.writable.toWellFormed
  · rw [blocks]
    exact table.size_ids_write
  · intro place member
    rw [blocks, written.inside_iff, aligned.inside_iff]
    exact inside place (List.mem_cons_of_mem _ member)

end CrowdedIds

theorem entities_convert_chestColumn (ids : Array UInt32) :
    (chestConverter.convert (chestColumn ids) 0).entities =
      (chestConverter.visitCells (chestColumn ids) (chestCube ids)
        (baseY 0 0)).entities := by
  have found : (Section.ofLayers #[chestCube ids] none).layer? 0 =
      some (chestCube ids) := by
    simp [Section.ofLayers, Section.layer?]
  have alone : (chestColumn ids).sections =
      #[.ofLayers #[chestCube ids] none] := by
    rw [chestColumn]
  rw [entities_convert_of_alone _ alone, convertSection_of_primary found,
    entities_assembled]

/-- With room in its table the section's upper chest is found. -/
theorem mem_entities_convert_upperChest
    {ids : Array UInt32}
    (table : ChestIds ids)
    (room : ids.size < 4096) :
    TargetEntity.empty ⟨0, 1, 0⟩ 1 ∈
      (chestConverter.convert (chestColumn ids) 0).entities := by
  have fits :=
    table.fits_chestColumn room (.ofLayers #[chestCube ids] none)
      (by simp [chestColumn])
  have found : (Section.ofLayers #[chestCube ids] none).layer? 0 =
      some (chestCube ids) := by
    simp [Section.ofLayers, Section.layer?]
  have alone : (chestColumn ids).sections =
      #[.ofLayers #[chestCube ids] none] := by
    rw [chestColumn]
  have member : ((0, 1, 0) : Place) ∈ placesOf 16 := by
    simp [mem_placesOf_iff]
  rw [entities_convert_of_alone _ alone, ← Array.mem_toList_iff,
    fits.toList_entities_convertSection found, ← chestPlan]
  refine List.mem_filterMap.2 ⟨(0, 1, 0), member, ?_⟩
  rw [entity?_upperChest table]
  rfl

/-- A table of air, chests and as many other blocks as fill it up. -/
def crowdedIds : Array UInt32 :=
  ((Array.range 4095).map Nat.toUInt32).push 5000

theorem getElem?_crowdedIds
    {entry : Nat}
    (below : entry < 4095) :
    crowdedIds[entry]? = some entry.toUInt32 := by
  rw [crowdedIds, Array.getElem?_push, if_neg (by simp; omega)]
  simp [below]

theorem crowdedIds_crowded : CrowdedIds crowdedIds := by
  have size : crowdedIds.size = 4096 := by simp [crowdedIds]
  refine ⟨⟨?_, size.le, getElem?_crowdedIds (by decide), ?_⟩, size, ?_⟩
  · rw [size]
    decide
  · rw [size, crowdedIds, Array.getElem?_push, if_pos (by simp)]
  · intro entry below
    refine ⟨entry.toUInt32, ?_, getElem?_crowdedIds (by omega)⟩
    have small : entry = 0 ∨ entry = 1 ∨ entry = 2 := by omega
    rcases small with rfl | rfl | rfl <;> decide

/--
Unused entries that fill up the table let the upper chest's block entity go
missing.
-/
theorem entities_convert_ne_of_crowded :
    (chestColumn #[0, 5000]).SameContent (chestColumn crowdedIds) ∧
      (∀ content ∈ (chestColumn #[0, 5000]).sections, content.Checked) ∧
      (∀ content ∈ (chestColumn crowdedIds).sections, content.Checked) ∧
      (chestConverter.convert (chestColumn #[0, 5000]) 0).entities ≠
        (chestConverter.convert (chestColumn crowdedIds) 0).entities := by
  have crowded := crowdedIds_crowded
  refine ⟨sameContent_chestColumn chestIds_pair crowded.toChestIds,
    chestIds_pair.checked_chestColumn, crowded.toChestIds.checked_chestColumn,
    ?_⟩
  intro same
  have upper := mem_entities_convert_upperChest chestIds_pair (by decide)
  rw [same, entities_convert_chestColumn, crowded.entities_visitCells,
    Array.mem_singleton] at upper
  have heights := congrArg TargetEntity.y upper
  exact absurd heights (by decide)

end Converter

end VoxelRelay
