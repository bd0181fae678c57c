import VoxelRelay.Proofs.ColumnContents
import VoxelRelay.Proofs.DerivedState
import VoxelRelay.Proofs.LightKeys
import VoxelRelay.Proofs.StoreFrames
import VoxelRelay.Proofs.TickSteps

/-!
# Light without emitters

Columns are lit from each other's stored light, so light may outlive the block
that gave it off.  It cannot keep itself up, though: going into a cell costs
one level at least, so what a column without emitters takes from its neighbors
is darker than the brightest light that they have.

Empty queues do not mean that such light is gone.  Neither lighting a column
anew nor unloading one makes its neighbors due, and so the light of a lamp may
stay behind in the column beside it.
-/

namespace VoxelRelay

/-! ## Columns without emitters -/

/-- No cell of a column gives off light. -/
def Dull (properties : LightProperties) (sections : Array Palette) : Prop :=
  ∀ voxel, voxel.InRange sections.size →
    properties.emission (blockOf sections voxel) = 0

namespace Dull

variable {properties : LightProperties}

section

variable {sections : Array Palette} (dull : Dull properties sections)
include dull

theorem glow_eq
    {voxel : Voxel}
    (inRange : voxel.InRange sections.size) :
    Flood.glow properties sections voxel = 0 := by
  rw [Flood.glow, dull voxel inRange, Nat.zero_min]

theorem igniteSection_eq
    {palette : Palette}
    {slot : Nat}
    (known : sections[slot]? = some palette)
    (flood : Flood) :
    flood.igniteSection properties palette slot = flood := by
  unfold Flood.igniteSection
  split
  · refine (List.foldl_ext _ (fun before _ => before) flood ?_).trans
      (List.foldl_fixed _)
    intro before voxel member
    obtain ⟨rfl, xLt, yLt, zLt⟩ := Voxel.mem_ofSection_iff.1 member
    have slotLt := (Array.getElem?_eq_some_iff.1 known).1
    have none := dull voxel ⟨slotLt, xLt, yLt, zLt⟩
    rw [blockOf_eq known] at none
    simp only [none, lt_irrefl, if_false]
  · rfl

theorem ignite_eq (flood : Flood) :
    flood.ignite properties sections = flood := by
  rw [Flood.ignite_eq_foldl]
  refine (List.foldl_ext _ (fun before _ => before) flood ?_).trans
    (List.foldl_fixed _)
  rintro before ⟨palette, slot⟩ member
  have known : sections[slot]? = some palette := by
    simpa using List.mk_mem_zipIdx_iff_getElem?.1 member
  exact dull.igniteSection_eq known before

end

variable {input : LightInput} (dull : Dull properties input.sections)
include dull

/-- The flood of a column without emitters is fed by its neighbors alone. -/
theorem extends_blockFlood :
    Flood.Extends input.sections.size (.still (.empty input.sections.size))
      (input.blockFlood properties) := by
  unfold LightInput.blockFlood
  rw [dull.ignite_eq]
  exact Flood.extends_inject properties (LightInput.fits_still_empty _) _

theorem spreads_blockFlood :
    (input.blockFlood properties).SpreadsFromWaiting properties
      input.sections := by
  intro voxel other inRange otherInRange adjacent still
  have dark :=
    dull.extends_blockFlood.levelAt_eq_of_not_waiting otherInRange still
  have none : (input.blockFlood properties).light.levelAt other = 0 :=
    dark.trans (LightData.level_empty _ _ _)
  rw [none, Nat.zero_sub]
  exact Nat.zero_le _

theorem levelAt_blockFlood
    {voxel : Voxel}
    (inRange : voxel.InRange input.sections.size) :
    (input.blockFlood properties).light.levelAt voxel =
      input.blockStart properties voxel := by
  unfold LightInput.blockFlood LightInput.blockStart
  rw [dull.ignite_eq,
    Flood.levelAt_inject (LightInput.fits_still_empty _) _ inRange]
  unfold startLevel
  rw [dull.glow_eq inRange, LightData.levelAt]
  congr 1
  exact LightData.level_empty _ _ _

theorem blockLight_least :
    IsLeastLight properties input.sections (input.blockStart properties)
      (input.blockLight properties).levelAt :=
  (Flood.settle_isLeastLight dull.extends_blockFlood.fits
    dull.spreads_blockFlood).congr_start
    fun _ inRange => dull.levelAt_blockFlood inRange

theorem brightens_blockLight :
    Flood.Brightens input.sections.size (.empty input.sections.size)
      (input.blockLight properties) :=
  dull.extends_blockFlood.toBrightens.trans
    (Flood.brightens_settle dull.extends_blockFlood.fits
      dull.spreads_blockFlood)

variable
    {bound : Nat}
    (bounded : ∀ direction light,
      input.neighborLight.get direction = some light →
      ∀ slot index, light.block.level slot index ≤ bound)
include bounded

omit dull in
theorem borderLevel_le
    (voxel : Voxel)
    (direction : Direction) :
    borderLevel input.neighborBlock voxel direction ≤ bound := by
  apply borderLevel_le_of_forall
  intro _ data known
  rw [LightInput.neighborBlock, Sides.map, Sides.get_ofFn,
    Option.map_eq_some_iff] at known
  obtain ⟨light, there, rfl⟩ := known
  exact bounded direction light there _ _

theorem levelAt_blockLight_le
    {voxel : Voxel}
    (inRange : voxel.InRange input.sections.size) :
    (input.blockLight properties).levelAt voxel ≤ bound - 1 := by
  refine dull.blockLight_least.le_solution (fun _ => bound - 1) ⟨?_, ?_⟩
    voxel inRange
  · intro cell cellInRange
    refine startLevel_le_iff.2 ⟨?_, fun direction => ?_⟩
    · rw [dull.glow_eq cellInRange]
      exact Nat.zero_le _
    · have outside := borderLevel_le bounded cell direction
      have positive := Flood.cost_pos properties (blockOf input.sections cell)
      omega
  · intro cell other _ _ _
    exact Nat.sub_le _ _

/-- Without emitters a column is darker than the brightest of its neighbors. -/
theorem level_blockLight_le (slot index : Nat) :
    (input.blockLight properties).level slot index ≤ bound - 1 := by
  by_cases outside : slot = 0 ∨ input.sections.size < slot
  · have same := dull.brightens_blockLight.outside_eq slot outside
    rw [LightData.level_eq_zero_of_slab?
      (same.trans (LightData.slab?_empty _ _))]
    exact Nat.zero_le _
  · rcases Nat.lt_or_ge index 4096 with inside | past
    · have slotLt : slot - 1 < input.sections.size := by omega
      obtain ⟨voxel, inRange, slots, rfl⟩ :=
        Voxel.exists_index_eq slotLt inside
      have place : voxel.slot + 1 = slot := by omega
      rw [← place]
      exact dull.levelAt_blockLight_le bounded inRange
    · rw [LightData.level_eq_zero_of_outside _ _ past]
      exact Nat.zero_le _

end Dull

/-! ## Stores without emitters -/

namespace Store

/-- No cell of a column that was sent gives off light. -/
def Unlit (store : Store) : Prop :=
  ∀ (pos : ColumnPos) (palettes : Array Palette),
    store.converted[pos]? = some palettes → Dull store.table.light palettes

/-! ## A lamp that goes with its column -/

/-- A table of air and lamps, which are as bright as light can be. -/
def lampTable : MappingTable :=
  ((MappingTable.create air air).added (.block 2 2 none)).added
    (.state 2 (.emitter 15))

def lampConverter : Converter := ⟨lampTable, lampTable⟩

/-- A world of one section. -/
def lampSettings : Settings := { Settings.standard with world := ⟨0, 16⟩ }

def west : ColumnPos := ⟨0, 0⟩

def east : ColumnPos := ⟨1, 0⟩

theorem compare_west_east : ¬ compare west east = .eq := by decide

/-- A section with a lamp at its eastern border. -/
def lampSection : Section := .ofLayers #[LightInput.lampAt 15 8 8] none

def lampColumn : Column :=
  { Column.create west 1 1 with sections := #[lampSection] }

/-- One column is sent in a tick that finds no light in its cache. -/
def sending (pos : ColumnPos) : List StoreOperation :=
  [.markDirty pos, .tick (.create 0 none) false]

/-! ### The blocks of both columns -/

theorem destinationOrAir_lampTable_lamp :
    lampTable.destinationOrAir 2 = 2 := by
  simp [lampTable, MappingTable.added, MappingTable.destinationOrAir,
    MappingTable.destination?]

theorem state_lampTable (id : UInt32) :
    lampTable.state id = if 2 = id then .emitter 15 else .transparent := by
  simp only [lampTable, MappingTable.added, MappingTable.state,
    MappingTable.create, air, Std.HashMap.getD_insert, Std.HashMap.getD_empty,
    beq_iff_eq, ite_self]

theorem tag?_lampTable (id : UInt32) : lampTable.tag? id = none := by
  simp only [lampTable, MappingTable.added, MappingTable.tag?,
    MappingTable.create, Std.HashMap.getElem?_insert,
    Std.HashMap.getElem?_empty]
  split
  · rfl
  · split <;> rfl

theorem overrides_lampConverter : lampConverter.entities.overrides = [] := by
  have none : lampConverter.entities.entityStates = ∅ := rfl
  rw [MappingTable.overrides, none, Std.HashMap.toList_empty, List.map_nil]

theorem blockOf_singleton
    {palette : Palette}
    {voxel : Voxel}
    (bottom : voxel.slot = 0) :
    blockOf #[palette] voxel = palette.idAt voxel.x voxel.y voxel.z := by
  apply blockOf_eq
  rw [bottom]
  rfl

theorem sectionCube_lamp : (LightInput.lampAt 15 8 8).SectionCube :=
  LightInput.sectionCube_lampAt (by decide) (by decide) (by decide)

theorem layer?_lampSection :
    lampSection.layer? 0 = some (LightInput.lampAt 15 8 8) := by
  simp [lampSection, Section.ofLayers, Section.layer?]

theorem setBlock_lamp :
    Section.empty.setBlock 0 15 8 8 air 2 = some lampSection := by
  have layers :
      (#[.blocks air] : Array Palette).modify 0 (·.setIdAt 15 8 8 2) =
      #[LightInput.lampAt 15 8 8] := by
    simp [LightInput.lampAt]
  simp [Section.setBlock, Section.ensureLayer, Section.padLayers,
    Section.modifyLayer, Section.empty, maxLayers, lampSection,
    Section.ofLayers, layers]

theorem fits_lampSection : lampConverter.Fits lampSection where
  checked := {
    shape := by
      simp [lampSection, Section.checkShape, Section.ofLayers, maxLayers,
        sectionEdge, sectionCube_lamp.edge_eq]
    layers := by
      intro palette member
      obtain rfl : palette = LightInput.lampAt 15 8 8 := by
        simpa [lampSection, Section.ofLayers] using member
      exact sectionCube_lamp.toWellFormed
    biomes := by
      intro palette member
      cases member }
  room := by
    intro primary found
    obtain rfl : LightInput.lampAt 15 8 8 = primary :=
      Option.some.inj (layer?_lampSection.symm.trans found)
    have none : lampConverter.entities.entityStates = ∅ := rfl
    refine ⟨?_, fun some => ?_⟩
    · rw [LightInput.ids_lampAt]
      decide
    · simp [none] at some

/-- The western column shows its lamp. -/
def westBlocks : Array Palette :=
  (lampConverter.convert lampColumn 0).palettes

theorem westBlocks_eq :
    westBlocks =
      #[(lampConverter.convertSection lampColumn 0 0 lampSection).1.blocks] :=
  Converter.palettes_convert_of_alone lampConverter rfl 0

theorem cubes_westBlocks : ∀ palette ∈ westBlocks, palette.SectionCube := by
  intro palette member
  rw [westBlocks_eq, List.mem_toArray, List.mem_singleton] at member
  exact member ▸ fits_lampSection.cube_convertSection lampColumn 0 0

theorem blockOf_westBlocks : blockOf westBlocks ⟨0, 15, 8, 8⟩ = 2 := by
  have member : ((15, 8, 8) : Place) ∈ placesOf 16 := by
    simp [mem_placesOf_iff]
  have lamp : (LightInput.lampAt 15 8 8).read (15, 8, 8) = 2 :=
    LightInput.idAt_lampAt (by decide) (by decide) (by decide) (by decide)
      (by decide) (by decide)
  have shown :=
    fits_lampSection.read_convertSection layer?_lampSection lampColumn
      0 0 member
  have alone : lampSection.layer? 1 = none := by
    simp [lampSection, Section.ofLayers, Section.layer?]
  rw [alone, MappingTable.floodedState,
    VisitPlan.state_eq_mapped_of_overrides_eq_nil overrides_lampConverter]
    at shown
  have mapped :
      (lampConverter.planFor lampColumn 0 0 (LightInput.lampAt 15 8 8)).mapped
      (15, 8, 8) = lampTable.destinationOrAir
        ((LightInput.lampAt 15 8 8).read (15, 8, 8)) := rfl
  rw [mapped, lamp, destinationOrAir_lampTable_lamp, Palette.read] at shown
  rw [westBlocks_eq, blockOf_singleton rfl, shown]

theorem sections_create (pos : ColumnPos) :
    (Column.create pos 1 1).sections = #[.empty] := by
  apply Array.toList_inj.1
  simp [Column.create, List.range_succ]

/-- A column as it is created shows air. -/
theorem palettes_convert_create (pos : ColumnPos) :
    (lampConverter.convert (.create pos 1 1) 0).palettes =
      #[.blocks air] := by
  have empty : Section.empty.layer? 0 = none := rfl
  rw [Converter.palettes_convert_of_alone lampConverter (sections_create pos),
    Converter.convertSection_of_empty empty]

theorem dull_air : Dull lampTable.light #[.blocks air] := by
  rintro voxel ⟨slotLt, -⟩
  rw [blockOf_singleton (Nat.lt_one_iff.1 slotLt), Palette.idAt,
    Palette.blocks, Palette.idAtCell_filled]
  exact congrArg BlockState.emission (state_lampTable air)

/-! ### The light of both columns -/

theorem filter_lampTable (id : UInt32) : lampTable.light.filter id = 0 := by
  show (lampTable.state id).filter = 0
  rw [state_lampTable]
  split <;> rfl

theorem cost_lampTable (id : UInt32) : lampTable.light.cost id = 1 := by
  rw [LightProperties.cost, filter_lampTable]
  rfl

theorem emission_lampTable_lamp : lampTable.light.emission 2 = 15 := by
  show (lampTable.state 2).emission = 15
  rw [state_lampTable, if_pos rfl]
  rfl

/-- The lamp shines in its own column. -/
theorem le_levelAt_lamp
    {input : LightInput}
    (blocks : input.sections = westBlocks) :
    15 ≤ (input.blockLight lampTable.light).levelAt ⟨0, 15, 8, 8⟩ := by
  have cubes : ∀ palette ∈ input.sections, palette.SectionCube :=
    blocks ▸ cubes_westBlocks
  have inside : Voxel.InRange input.sections.size ⟨0, 15, 8, 8⟩ := by
    rw [blocks, westBlocks_eq]
    exact ⟨Nat.zero_lt_one, by decide, by decide, by decide⟩
  have least := LightInput.blockLight_least lampTable.light input cubes
  have starts := least.solution.start_le _ inside
  have own := (startLevel_le_iff.1 (le_refl
    (input.blockStart lampTable.light ⟨0, 15, 8, 8⟩))).1
  rw [Flood.glow, blocks, blockOf_westBlocks, emission_lampTable_lamp] at own
  exact own.trans starts

section

variable {input : LightInput} (blocks : input.sections = #[.blocks air])
include blocks

theorem inRange_of_air
    {voxel : Voxel}
    (inside : voxel.InRange 1) :
    voxel.InRange input.sections.size := by
  rw [blocks]
  exact inside

/-- What is beside a column of air reaches it, less a level. -/
theorem le_levelAt_of_beside
    {direction : Direction}
    {light : ColumnLight}
    (beside : input.neighborLight.get direction = some light)
    {voxel : Voxel}
    (inside : voxel.InRange 1)
    (onFace : voxel.OnFace direction) :
    light.block.levelAt (voxel.across direction) - 1 ≤
      (input.blockLight lampTable.light).levelAt voxel := by
  have dull : Dull lampTable.light input.sections := blocks ▸ dull_air
  have starts :=
    dull.blockLight_least.solution.start_le voxel
      (inRange_of_air blocks inside)
  have border := (startLevel_le_iff.1 (le_refl
    (input.blockStart lampTable.light voxel))).2 direction
  have outside : borderLevel input.neighborBlock voxel direction =
      light.block.levelAt (voxel.across direction) := by
    rw [borderLevel, if_pos onFace, LightInput.neighborBlock, Sides.map,
      Sides.get_ofFn, beside]
    rfl
  rw [outside, cost_lampTable] at border
  exact border.trans starts

end

/-! ### The run -/

/-- A store with the two columns, of which some were sent and none is due. -/
structure Standing (store : Store) (sent : List ColumnPos) : Prop where
  consistent : store.Consistent
  settings_eq : store.settings = lampSettings
  converter_eq : store.converter = lampConverter
  view_eq : store.view = ⟨⟨0, 0⟩, 8, none⟩
  idle : ∀ pos, ¬ store.dirty.contains pos = true
  mem_sent_iff : ∀ pos, pos ∈ store.sent ↔ pos ∈ sent

/-- The store once both columns are there. -/
def twoColumns : Store :=
  (create lampSettings lampConverter).run
    [.createColumn west 1, .createColumn east 1]

theorem twoColumns_eq :
    twoColumns =
      { ((create lampSettings lampConverter).forgetDerived west).forgetDerived
        east with
        columns :=
          ((∅ : Std.TreeMap ColumnPos Column).insert west
            (.create west 1 1)).insert east
            (.create east 1 1) } := by
  have first : (create lampSettings lampConverter).view.renders west = true :=
    rfl
  have second :
      ((create lampSettings lampConverter).createColumn west
        1).store.view.renders east =
      true := by
    rw [createColumn_of_renders first]
    rfl
  show (((create lampSettings lampConverter).createColumn west
      1).store.createColumn east 1).store =
    _
  rw [createColumn_of_renders second, createColumn_of_renders first]
  rfl

theorem standing_twoColumns : Standing twoColumns [] where
  consistent := (consistent_create _ _).run _
  settings_eq := by rw [twoColumns_eq]; rfl
  converter_eq := by rw [twoColumns_eq]; rfl
  view_eq := by rw [twoColumns_eq]; rfl
  idle := by
    intro pos
    rw [twoColumns_eq]
    simp [forgetDerived, create, ColumnQueue.contains_remove_iff,
      ColumnQueue.not_contains_empty]
  mem_sent_iff := by
    intro pos
    rw [twoColumns_eq]
    simp [forgetDerived, create]

theorem columns_twoColumns :
    twoColumns.columns[west]? = some (.create west 1 1) ∧
      twoColumns.columns[east]? = some (.create east 1 1) := by
  rw [twoColumns_eq]
  have apart : ¬ compare east west = .eq := by decide
  constructor
  · rw [Std.TreeMap.getElem?_insert, if_neg apart,
      Std.TreeMap.getElem?_insert_self]
  · exact Std.TreeMap.getElem?_insert_self

/-- The store once the lamp is in its place. -/
def lampStore : Store := (twoColumns.changeBlock ⟨15, 8, 8⟩ 0 2).store

theorem Standing.column?_eq
    {store : Store}
    {sent : List ColumnPos}
    (standing : Standing store sent)
    {pos : ColumnPos}
    (inside : ViewWindow.loads ⟨⟨0, 0⟩, 8, none⟩ pos = true) :
    store.column? pos = store.columns[pos]? := by
  rw [column?, standing.view_eq, if_pos inside]

theorem lampStore_eq :
    lampStore = { twoColumns with
      columns :=
        twoColumns.columns.modify west
          (·.modifySection 0 fun _ => lampSection) } := by
  have standing := standing_twoColumns
  have loaded : twoColumns.column? west = some (.create west 1 1) :=
    (standing.column?_eq rfl).trans columns_twoColumns.1
  have inside :
      twoColumns.slot? (BlockPos.sectionPos ⟨15, 8, 8⟩).y = some 0 := by
    rw [slot?, minY, sectionCount, standing.settings_eq]
    rfl
  have found : (Column.create west 1 1).section? 0 = some .empty := by
    rw [Column.section?, sections_create]
    rfl
  have untagged : ∀ id, twoColumns.table.tag? id = none := by
    intro id
    rw [table, standing.converter_eq]
    exact tag?_lampTable id
  have written :
      Section.empty.setBlock 0 15 8 8 twoColumns.table.sourceAir 2 =
      some lampSection := by
    rw [table, standing.converter_eq]
    exact setBlock_lamp
  have same := (untagged ((Section.empty.blockAt? 0 15 8 8).getD
    twoColumns.table.sourceAir)).trans (untagged 2).symm
  have changed :=
    @changeBlock_of_same_tag twoColumns ⟨15, 8, 8⟩ 0 0 2 _ _ _ loaded
      inside found rfl (by decide) written same
  rw [lampStore, changed, modifyColumn, standing.view_eq]
  rfl

theorem standing_lampStore : Standing lampStore [] where
  consistent := standing_twoColumns.consistent.changeBlock _ _ _
  settings_eq := by rw [lampStore_eq]; exact standing_twoColumns.settings_eq
  converter_eq := by rw [lampStore_eq]; exact standing_twoColumns.converter_eq
  view_eq := by rw [lampStore_eq]; exact standing_twoColumns.view_eq
  idle := by rw [lampStore_eq]; exact standing_twoColumns.idle
  mem_sent_iff := by rw [lampStore_eq]; exact standing_twoColumns.mem_sent_iff

theorem columns_lampStore :
    lampStore.columns[west]? = some lampColumn ∧
      lampStore.columns[east]? = some (.create east 1 1) := by
  obtain ⟨atWest, atEast⟩ := columns_twoColumns
  rw [lampStore_eq]
  constructor
  · have placed :
        (Column.create west 1 1).modifySection 0 (fun _ => lampSection) =
          lampColumn := by
      rw [Column.modifySection, sections_create, lampColumn]
      congr 1
    rw [Std.TreeMap.getElem?_modify, if_pos Std.ReflCmp.compare_self, atWest,
      Option.map_some, placed]
  · rw [Std.TreeMap.getElem?_modify, if_neg compare_west_east, atEast]

/-- A loaded column that is made due is the one that the next tick sends. -/
theorem Standing.exists_turn
    {store : Store}
    {sent : List ColumnPos}
    (standing : Standing store sent)
    {pos : ColumnPos}
    {column : Column}
    (inside : ViewWindow.loads ⟨⟨0, 0⟩, 8, none⟩ pos = true)
    (loaded : store.columns[pos]? = some column) :
    let due := store.markDirty pos
    ∃ rest, due.dirty.pop? = some (pos, rest) ∧
      (∀ other, ¬ rest.contains other = true) ∧
      due.column? pos = some column ∧ due.settings = lampSettings ∧
      (due.converter.convert column due.minY).palettes =
        (lampConverter.convert column 0).palettes := by
  intro due
  obtain ⟨rest, taken, alone⟩ :=
    ColumnQueue.exists_pop?_push standing.idle pos
  have settings : due.settings = lampSettings := standing.settings_eq
  have converter : due.converter = lampConverter := standing.converter_eq
  refine ⟨rest, taken, alone, (standing.column?_eq inside).trans loaded,
    settings, ?_⟩
  rw [minY, settings, converter]
  rfl

/--
A column that is sent alone gets its light; at most its neighbors are due
afterwards.
-/
theorem Standing.send
    {store : Store}
    {sent : List ColumnPos}
    (standing : Standing store sent)
    {pos : ColumnPos}
    {column : Column}
    (inside : ViewWindow.loads ⟨⟨0, 0⟩, 8, none⟩ pos = true)
    (loaded : store.columns[pos]? = some column)
    (still : ¬ store.relight.contains pos = true)
    (apart : pos ∉ pos.neighbors) :
    let palettes := (lampConverter.convert column 0).palettes
    let after := store.run (sending pos)
    Standing after (pos :: sent) ∧ after.columns = store.columns ∧
      after.converted = store.converted.insert pos palettes ∧
      after.light[pos]? = some (store.freshLight pos palettes) ∧
      ∀ other, after.relight.contains other = true →
        store.relight.contains other = true ∨ other ∈ pos.neighbors := by
  intro palettes after
  obtain ⟨rest, taken, alone, known, settings, shown⟩ :=
    standing.exists_turn inside loaded
  have budget :
      (store.markDirty pos).settings.scheduler.columnsPerTick ≠ 0 := by
    rw [settings]
    decide
  obtain ⟨lights, relight, done, kept, left⟩ :=
    @exists_tick_of_pop? (store.markDirty pos) pos column rest taken alone
      known budget 0
  rw [shown] at done kept
  have done : after = _ := done
  refine ⟨?_, ?_, ?_, ?_, ?_⟩
  · constructor
    · exact standing.consistent.run _
    · rw [done]; exact standing.settings_eq
    · rw [done]; exact standing.converter_eq
    · rw [done]; exact standing.view_eq
    · rw [done]; exact alone
    · intro other
      rw [done, List.mem_cons, ← standing.mem_sent_iff, @eq_comm _ other pos,
        ← Std.compare_eq_iff_eq]
      exact Std.TreeSet.mem_insert
  · rw [done]; rfl
  · rw [done]; rfl
  · rw [done]
    exact (kept pos apart still).trans Std.TreeMap.getElem?_insert_self
  · intro other waits
    rw [done] at waits
    exact (left other waits).imp_right And.left

theorem Standing.block_freshLight
    {store : Store}
    {sent : List ColumnPos}
    (standing : Standing store sent)
    (pos : ColumnPos)
    (palettes : Array Palette) :
    (store.freshLight pos palettes).block =
      ({ store with
          converted := store.converted.insert pos palettes }.lightInput pos
        palettes).blockLight lampTable.light := by
  rw [freshLight, table, standing.converter_eq]
  rfl

/-- What is stored beside a column of air reaches it, less a level. -/
theorem Standing.le_level_freshLight
    {store : Store}
    {sent : List ColumnPos}
    (standing : Standing store sent)
    {pos : ColumnPos}
    {direction : Direction}
    {light : ColumnLight}
    (beside : store.light[pos.neighbor direction]? = some light)
    {voxel : Voxel}
    (inside : voxel.InRange 1)
    (onFace : voxel.OnFace direction) :
    light.block.levelAt (voxel.across direction) - 1 ≤
      (store.freshLight pos #[.blocks air]).block.levelAt voxel := by
  rw [standing.block_freshLight]
  apply le_levelAt_of_beside rfl _ inside onFace
  rw [lightInput, Sides.get_ofFn]
  exact beside

/-- What the lamp leaves reaches the next column. -/
theorem Standing.le_levelAt_beside
    {store : Store}
    {sent : List ColumnPos}
    (standing : Standing store sent)
    {light : ColumnLight}
    (beside : store.light[west]? = some light)
    (bright : 15 ≤ light.block.levelAt ⟨0, 15, 8, 8⟩) :
    14 ≤ (store.freshLight east #[.blocks air]).block.levelAt
      ⟨0, 0, 8, 8⟩ := by
  have inside : Voxel.InRange 1 ⟨0, 0, 8, 8⟩ := by decide
  exact (Nat.sub_le_sub_right bright 1).trans
    (@Standing.le_level_freshLight _ _ standing east .west _ beside _
      inside rfl)

theorem Standing.mem_of_relight
    {store : Store}
    {sent : List ColumnPos}
    (standing : Standing store sent)
    {pos : ColumnPos}
    (waits : store.relight.contains pos = true) :
    pos ∈ sent :=
  (standing.mem_sent_iff pos).1
    (standing.consistent.sent_of_relight pos waits)

theorem Standing.mem_of_converted
    {store : Store}
    {sent : List ColumnPos}
    (standing : Standing store sent)
    {pos : ColumnPos}
    {palettes : Array Palette}
    (known : store.converted[pos]? = some palettes) :
    pos ∈ sent :=
  (standing.mem_sent_iff pos).1 (standing.consistent.sent_of_converted known)

theorem Standing.mem_of_light
    {store : Store}
    {sent : List ColumnPos}
    (standing : Standing store sent)
    {pos : ColumnPos}
    {light : ColumnLight}
    (known : store.light[pos]? = some light) :
    pos ∈ sent :=
  (standing.mem_sent_iff pos).1 (standing.consistent.sent_of_light known)

/-- The store once the western column was sent. -/
def lampSent : Store := lampStore.run (sending west)

theorem standing_lampSent :
    Standing lampSent [west] ∧ lampSent.columns = lampStore.columns ∧
      ∃ light, lampSent.light[west]? = some light ∧
        15 ≤ light.block.levelAt ⟨0, 15, 8, 8⟩ := by
  have still : ¬ lampStore.relight.contains west = true := fun waits =>
    absurd (standing_lampStore.mem_of_relight waits) List.not_mem_nil
  obtain ⟨standing, columns, -, light, -⟩ :=
    standing_lampStore.send rfl columns_lampStore.1 still (by decide)
  refine ⟨standing, columns, _, light, ?_⟩
  rw [standing_lampStore.block_freshLight]
  exact le_levelAt_lamp rfl

/-- The store once both columns were sent. -/
def bothSent : Store := lampSent.run (sending east)

/--
The light of the lamp is stored with the eastern column, where no emitter is.
-/
theorem standing_bothSent :
    Standing bothSent [east, west] ∧ bothSent.columns = lampStore.columns ∧
      bothSent.converted[east]? = some #[.blocks air] ∧
      (∃ light, bothSent.light[east]? = some light ∧
        14 ≤ light.block.levelAt ⟨0, 0, 8, 8⟩) ∧
      ∀ pos, bothSent.relight.contains pos = true → pos = west := by
  obtain ⟨before, same, light, known, bright⟩ := standing_lampSent
  have beside : lampSent.columns[east]? = some (.create east 1 1) := by
    rw [same]
    exact columns_lampStore.2
  have still : ¬ lampSent.relight.contains east = true := fun waits =>
    absurd (before.mem_of_relight waits) (by decide)
  obtain ⟨standing, columns, converted, lit, due⟩ :=
    before.send rfl beside still (by decide)
  rw [palettes_convert_create] at converted lit
  refine ⟨standing, columns.trans same, ?_, ⟨_, lit, ?_⟩, ?_⟩
  · rw [bothSent, converted]
    exact Std.TreeMap.getElem?_insert_self
  · exact before.le_levelAt_beside known bright
  · intro pos waits
    rcases due pos waits with earlier | near
    · exact List.mem_singleton.1 (before.mem_of_relight earlier)
    · rcases List.mem_pair.1 (standing.mem_of_relight waits) with rfl | same
      · exact absurd near (by decide)
      · exact same

/--
Both columns are sent, first the one with the lamp, which is unloaded after
that.
-/
def ghostRun : List StoreOperation :=
  [.createColumn west 1, .createColumn east 1, .changeBlock ⟨15, 8, 8⟩ 0 2] ++
    sending west ++ sending east ++ [.unloadColumn west]

def ghostStore : Store := (create lampSettings lampConverter).run ghostRun

theorem ghostStore_eq :
    ghostStore =
      { bothSent with columns := bothSent.columns.erase west }.forgetDerived
        west := by
  have known : bothSent.columns[west]? = some lampColumn := by
    rw [standing_bothSent.2.1]
    exact columns_lampStore.1
  show (bothSent.unloadColumn west).store = _
  rw [unloadColumn, known]

theorem standing_ghostStore : Standing ghostStore [east] where
  consistent := (consistent_create _ _).run ghostRun
  settings_eq := by rw [ghostStore_eq]; exact standing_bothSent.1.settings_eq
  converter_eq := by
    rw [ghostStore_eq]; exact standing_bothSent.1.converter_eq
  view_eq := by rw [ghostStore_eq]; exact standing_bothSent.1.view_eq
  idle := by
    intro pos waits
    rw [ghostStore_eq] at waits
    exact standing_bothSent.1.idle pos
      ((ColumnQueue.contains_remove_iff _ _ _).1 waits).2
  mem_sent_iff := by
    intro pos
    have before := standing_bothSent.1.mem_sent_iff pos
    rw [ghostStore_eq]
    simp only [forgetDerived, Std.TreeSet.mem_erase, before, ne_eq,
      Std.compare_eq_iff_eq, List.mem_pair, List.mem_singleton]
    constructor
    · rintro ⟨apart, rfl | rfl⟩
      · rfl
      · exact absurd rfl apart
    · rintro rfl
      exact ⟨by decide, Or.inl rfl⟩

theorem not_relight_ghostStore (pos : ColumnPos) :
    ¬ ghostStore.relight.contains pos = true := by
  intro waits
  rw [ghostStore_eq] at waits
  obtain ⟨apart, before⟩ := (ColumnQueue.contains_remove_iff _ _ _).1 waits
  exact apart (standing_bothSent.2.2.2.2 pos before)

/-- Where only the eastern column counts as sent, nothing gives off light. -/
theorem Standing.unlit
    {store : Store}
    (standing : Standing store [east])
    (converted : store.converted[east]? = some #[.blocks air]) :
    store.Unlit := by
  intro pos palettes known
  obtain rfl := List.mem_singleton.1 (standing.mem_of_converted known)
  rw [converted] at known
  cases known
  rw [table, standing.converter_eq]
  exact dull_air

theorem eastBlocks_ghostStore :
    ghostStore.converted[east]? = some #[.blocks air] := by
  rw [ghostStore_eq]
  exact (Std.TreeMap.getElem?_erase.trans (if_neg compare_west_east)).trans
    standing_bothSent.2.2.1

theorem unlit_ghostStore : ghostStore.Unlit :=
  standing_ghostStore.unlit eastBlocks_ghostStore

theorem light_ghostStore :
    ∃ light, ghostStore.sentLight? east = some light ∧
      14 ≤ light.block.level 1 (cellIndex 0 8 8) := by
  obtain ⟨light, known, bright⟩ := standing_bothSent.2.2.2.1
  refine ⟨light, ?_, bright⟩
  rw [ghostStore_eq]
  exact (Std.TreeMap.getElem?_erase.trans (if_neg compare_west_east)).trans
    known

/--
The light of a lamp that is gone is still stored when nothing is due any more.
-/
theorem exists_ghost_light :
    let store := (create lampSettings lampConverter).run ghostRun
    (∀ pos, ¬ store.dirty.contains pos = true) ∧
      (∀ pos, ¬ store.relight.contains pos = true) ∧
      store.Unlit ∧ store.isSent east = true ∧
      ∃ light, store.sentLight? east = some light ∧
        light.block.level 1 (cellIndex 0 8 8) ≠ 0 := by
  obtain ⟨light, known, bright⟩ := light_ghostStore
  have sent := (standing_ghostStore.mem_sent_iff east).2 List.mem_cons_self
  have lit : light.block.level 1 (cellIndex 0 8 8) ≠ 0 := by omega
  exact ⟨standing_ghostStore.idle, not_relight_ghostStore, unlit_ghostStore,
    sent, light, known, lit⟩

/-- A column of air beside dark columns is dark. -/
theorem Standing.level_freshLight_eq_zero
    {store : Store}
    {sent : List ColumnPos}
    (standing : Standing store sent)
    {pos : ColumnPos}
    (dark : ∀ (direction : Direction) (light : ColumnLight),
      store.light[pos.neighbor direction]? = some light →
      ∀ slot index, light.block.level slot index = 0)
    (slot index : Nat) :
    (store.freshLight pos #[.blocks air]).block.level slot index = 0 := by
  rw [standing.block_freshLight]
  apply Nat.eq_zero_of_le_zero
  refine @Dull.level_blockLight_le lampTable.light _ dull_air 0 ?_ slot index
  intro direction light known slot index
  rw [lightInput, Sides.get_ofFn] at known
  exact (dark direction light known slot index).le

end Store

end VoxelRelay
