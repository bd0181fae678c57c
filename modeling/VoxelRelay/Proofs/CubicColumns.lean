import VoxelRelay.Proofs.BlockUpdates
import VoxelRelay.Proofs.DueColumns
import VoxelRelay.Proofs.LightAgreement
import VoxelRelay.Proofs.SectionConversion

/-!
# Columns of cubes

Every layer of every section of a store is a cube of sixteen, and so are the
blocks that it sends.  Layers are delivered as such; edits, those that wait in
a log included, only write cells that lie in the cube; and converting a section
only writes cells of it, however many entries its table has.
-/

namespace VoxelRelay

/-! ## Writing into cubes -/

namespace Palette

/--
A write keeps a palette well formed, even if the table has to make room for
it.
-/
theorem WellFormed.overwrite
    {palette : Palette}
    (wellFormed : palette.WellFormed)
    {cell : Nat}
    (inside : cell < palette.size)
    (id : UInt32) :
    (palette.setIdAtCell cell id).WellFormed := by
  rcases palette.setIdAtCell_eq cell id with
    ⟨index, known, written⟩ | ⟨-, written⟩
  · rw [written]
    exact wellFormed.setIndex inside (Array.getElem?_eq_some_iff.1 known).1
  · rw [written]
    apply (wellFormed.makeRoom.extended id).setIndex
    · rwa [size_extended, size_makeRoom]
    · simp [ids_extended]

namespace SectionCube

variable {palette : Palette} (cube : palette.SectionCube)
include cube

theorem overwrite
    {x y z : Nat}
    (xLt : x < 16)
    (yLt : y < 16)
    (zLt : z < 16)
    (id : UInt32) :
    (palette.setIdAt x y z id).SectionCube :=
  ⟨cube.toWellFormed.overwrite (cube.cell_lt xLt yLt zLt) id,
    (palette.edgeBits_setIdAtCell_eq _ id).trans cube.edgeBits_eq⟩

theorem write
    {place : Place}
    (member : place ∈ placesOf 16)
    (id : UInt32) :
    (palette.write place id).SectionCube := by
  obtain ⟨xLt, yLt, zLt⟩ := mem_placesOf_iff.1 member
  exact cube.overwrite xLt yLt zLt id

theorem mapIds (change : UInt32 → UInt32) :
    (palette.mapIds change).SectionCube :=
  ⟨cube.toWellFormed.mapIds change, cube.edgeBits_eq⟩

end SectionCube

end Palette

/-! ## Sections and columns -/

/--
What holds of all elements holds after a change of the one in a place that
keeps it.
-/
theorem forall_mem_modify
    {α : Type}
    {elements : Array α}
    {holds : α → Prop}
    (all : ∀ element ∈ elements, holds element)
    (place : Nat)
    {change : α → α}
    (kept : ∀ element, elements[place]? = some element →
      holds (change element)) :
    ∀ element ∈ elements.modify place change, holds element := by
  intro element member
  obtain ⟨index, known⟩ := Array.getElem?_of_mem member
  rw [Array.getElem?_modify] at known
  split at known
  · next same =>
      obtain ⟨old, there, rfl⟩ := Option.map_eq_some_iff.1 known
      exact kept old (same ▸ there)
  · exact all element (Array.mem_of_getElem? known)

/-- An edit lies within its section. -/
def Edit.Inside (edit : Edit) : Prop :=
  edit.x < 16 ∧ edit.y < 16 ∧ edit.z < 16

theorem BlockUpdate.inside_edit (update : BlockUpdate) : update.edit.Inside :=
  ⟨localCoordinate_lt _, localCoordinate_lt _, localCoordinate_lt _⟩

namespace Section

/--
The layers of a section are cubes, and the edits in its log lie within it.
-/
structure Cubic (content : Section) : Prop where
  layers : ∀ palette ∈ content.layers, palette.SectionCube
  pending : ∀ log ∈ content.pending, ∀ edit ∈ log, edit.Inside

theorem cubic_empty : empty.Cubic where
  layers := fun _ member => absurd member (Array.not_mem_empty _)
  pending := fun _ member => nomatch member

theorem cubic_awaiting : awaiting.Cubic where
  layers := fun _ member => absurd member (Array.not_mem_empty _)
  pending := by
    rintro log ⟨rfl⟩ edit member
    exact absurd member (Array.not_mem_empty _)

/-- Layers that are well formed and pass the check of their shape are cubes. -/
theorem cubes_of_checkShape
    {content : Section}
    (shape : content.checkShape = .ok ())
    (wellFormed : ∀ palette ∈ content.layers, palette.WellFormed) :
    ∀ palette ∈ content.layers, palette.SectionCube := by
  intro palette member
  exact ⟨wellFormed palette member,
    Palette.edgeBits_eq_of_edge
      ((edges_of_checkShape shape).1 palette member)⟩

theorem cubes_normalize
    {content : Section}
    (cubes : ∀ palette ∈ content.layers, palette.SectionCube)
    (table : MappingTable) :
    ∀ palette ∈ (content.normalize table).layers, palette.SectionCube := by
  intro palette member
  obtain ⟨layer, there, rfl⟩ := Array.mem_map.1 member
  exact (cubes layer there).mapIds _

theorem cubes_padLayers
    {content : Section}
    (cubes : ∀ palette ∈ content.layers, palette.SectionCube)
    (count : Nat)
    (sourceAir : UInt32) :
    ∀ palette ∈ (content.padLayers count sourceAir).layers,
      palette.SectionCube := by
  intro palette member
  rcases Array.mem_append.1 member with before | added
  · exact cubes palette before
  · rw [(Array.mem_replicate.1 added).2]
    exact Palette.sectionCube_blocks sourceAir

/--
An edit within a section keeps its layers cubes, those included that are added
for it.
-/
theorem cubes_edited
    {content : Section}
    (cubes : ∀ palette ∈ content.layers, palette.SectionCube)
    {edit : Edit}
    (inside : edit.Inside)
    (sourceAir : UInt32) :
    ∀ palette ∈ (content.edited sourceAir edit).layers,
      palette.SectionCube := by
  have padded := cubes_padLayers cubes (edit.layer + 1) sourceAir
  obtain ⟨xLt, yLt, zLt⟩ := inside
  by_cases layer : edit.layer < maxLayers
  · have written := forall_mem_modify padded edit.layer fun palette known =>
      (padded palette (Array.mem_of_getElem? known)).overwrite xLt yLt
        zLt edit.id
    simpa [edited, setBlock, ensureLayer, Nat.not_le.2 layer, modifyLayer]
      using written
  · simpa [edited, setBlock, ensureLayer, Nat.not_lt.1 layer] using cubes

namespace Cubic

variable {content : Section} (cubic : content.Cubic)
include cubic

theorem edited
    {edit : Edit}
    (inside : edit.Inside)
    (sourceAir : UInt32) :
    (content.edited sourceAir edit).Cubic where
  layers := cubes_edited cubic.layers inside sourceAir
  pending := by
    rw [pending_edited]
    exact cubic.pending

theorem logged
    {edit : Edit}
    (inside : edit.Inside) :
    (content.logged edit).Cubic where
  layers := cubic.layers
  pending := by
    rintro log member other known
    obtain ⟨before, there, rfl⟩ := Option.map_eq_some_iff.1 member
    rcases Array.mem_push.1 known with earlier | rfl
    · exact cubic.pending before there other earlier
    · exact inside

omit cubic in
theorem foldl_edited
    {edits : List Edit}
    (inside : ∀ edit ∈ edits, edit.Inside)
    {content : Section}
    (cubic : content.Cubic)
    (sourceAir : UInt32) :
    (edits.foldl (Section.edited sourceAir) content).Cubic := by
  induction edits generalizing content with
  | nil => exact cubic
  | cons edit rest ih =>
      exact ih
        (fun other member => inside other (List.mem_cons_of_mem _ member))
        (cubic.edited (inside edit List.mem_cons_self) sourceAir)

/-- A section is filled by cubes, and its log keeps them cubes. -/
theorem filledBy
    {arriving : Section}
    (cubes : ∀ palette ∈ arriving.layers, palette.SectionCube)
    (sourceAir : UInt32) :
    (Section.filledBy sourceAir arriving content).Cubic := by
  cases waiting : content.pending with
  | none =>
      have kept : (content.mergeFrom arriving).pending = none := waiting
      rw [Section.filledBy, applyPending, kept]
      exact ⟨cubes, fun log member => by simp [kept] at member⟩
  | some log =>
      rw [filledBy_of_log waiting]
      apply foldl_edited
      · intro edit member
        exact cubic.pending log waiting edit (Array.mem_toList_iff.1 member)
      · exact ⟨cubes, fun _ member => by cases member⟩

end Cubic

end Section

namespace Column

/-- The sections of a column consist of cubes. -/
def Cubic (column : Column) : Prop :=
  ∀ content ∈ column.sections, content.Cubic

theorem cubic_create
    (pos : ColumnPos)
    (count declared : Nat) :
    (create pos count declared).Cubic := by
  intro content member
  obtain ⟨slot, -, rfl⟩ := Array.mem_map.1 member
  split
  · exact Section.cubic_empty
  · exact Section.cubic_awaiting

theorem Cubic.modifySection
    {column : Column}
    (cubic : column.Cubic)
    {change : Section → Section}
    (kept : ∀ content, content.Cubic → (change content).Cubic)
    (slot : Nat) :
    (column.modifySection slot change).Cubic :=
  forall_mem_modify cubic slot fun content known =>
    kept content (cubic content (Array.mem_of_getElem? known))

theorem Cubic.congr
    {column other : Column}
    (cubic : column.Cubic)
    (same : other.sections = column.sections) :
    other.Cubic := by
  rw [Cubic, same]
  exact cubic

theorem Cubic.fill
    {column : Column}
    (cubic : column.Cubic)
    {arriving : Section}
    (cubes : ∀ palette ∈ arriving.layers, palette.SectionCube)
    (slot : Nat)
    (sourceAir : UInt32)
    (entities : List SourceEntity) :
    (column.fill slot arriving sourceAir entities).Cubic := by
  rw [fill_eq]
  apply Cubic.modifySection
  · exact cubic.congr (sections_foldl_putEntity entities column)
  · exact fun content cubic => cubic.filledBy cubes sourceAir

end Column

/-! ## Converted columns -/

namespace VisitPlan

theorem blocks_addEntity
    (plan : VisitPlan)
    (visit : CellVisit)
    (tag : String)
    (place : Place) :
    (plan.addEntity visit tag place.1 place.2.1 place.2.2).blocks =
      visit.blocks ∨
      ∃ state, (plan.addEntity visit tag place.1 place.2.1 place.2.2).blocks =
        visit.blocks.write place state := by
  rw [addEntity]
  split
  · split
    · dsimp only
      split
      · exact Or.inr ⟨_, rfl⟩
      · exact Or.inl rfl
    · exact Or.inl rfl
  · split <;> exact Or.inl rfl

/-- Visiting a cell writes that cell at most. -/
theorem blocks_visit
    (plan : VisitPlan)
    (visit : CellVisit)
    (place : Place) :
    (plan.visit visit place).blocks = visit.blocks ∨
      ∃ state,
        (plan.visit visit place).blocks = visit.blocks.write place state := by
  have looked : ∀ entry, (visit.look entry).blocks = visit.blocks := by
    intro entry
    cases entry with
    | none => rfl
    | some state => exact visit.blocks_counted state
  rw [visit_unfold]
  split
  · next tag _ =>
      let index := visit.blocks.indices.get (visit.blocks.number place)
      have added :=
        plan.blocks_addEntity (visit.look (visit.blocks.id? index.toNat)) tag
          place
      rwa [looked] at added
  · exact Or.inl (looked _)

theorem cube_foldl_visit
    (plan : VisitPlan)
    {places : List Place}
    (inside : ∀ place ∈ places, place ∈ placesOf 16)
    {visit : CellVisit}
    (cube : visit.blocks.SectionCube) :
    (places.foldl plan.visit visit).blocks.SectionCube := by
  induction places generalizing visit with
  | nil => exact cube
  | cons place rest ih =>
      apply ih fun other member =>
        inside other (List.mem_cons_of_mem _ member)
      rcases plan.blocks_visit visit place with same | ⟨state, written⟩
      · rw [same]
        exact cube
      · rw [written]
        exact cube.write (inside place List.mem_cons_self) state

end VisitPlan

namespace MappingTable

theorem cube_foldl_waterlogCell
    (table : MappingTable)
    (primary overlay : Palette)
    {places : List Place}
    (inside : ∀ place ∈ places, place ∈ placesOf 16)
    {blocks : Palette}
    (cube : blocks.SectionCube) :
    (places.foldl (table.waterlogCell primary overlay)
      blocks).SectionCube := by
  induction places generalizing blocks with
  | nil => exact cube
  | cons place rest ih =>
      apply ih fun other member =>
        inside other (List.mem_cons_of_mem _ member)
      rw [waterlogCell_eq]
      split
      · split
        · next state _ =>
              exact cube.write (inside place List.mem_cons_self) state
        · exact cube
      · exact cube

theorem cube_flooded
    (table : MappingTable)
    (primary : Palette)
    (overlay : Option Palette)
    {blocks : Palette}
    (cube : blocks.SectionCube) :
    (table.flooded primary overlay blocks).SectionCube := by
  cases overlay with
  | none => exact cube
  | some overlay =>
      show (table.waterlog primary overlay blocks).SectionCube
      rw [waterlog]
      split
      · exact cube
      · exact table.cube_foldl_waterlogCell primary overlay
          (fun _ member => member) cube

end MappingTable

namespace Converter

/-- The visit of the cells of a cube leaves a cube. -/
theorem cube_visitCells
    (converter : Converter)
    (column : Column)
    {primary : Palette}
    (cube : primary.SectionCube)
    (baseY : Int32) :
    (converter.visitCells column primary baseY).blocks.SectionCube := by
  rw [visitCells, visitOrder_eq]
  exact VisitPlan.cube_foldl_visit _ (fun _ member => member) (cube.mapIds _)

theorem cube_convertSection
    (converter : Converter)
    (column : Column)
    (minY : Int32)
    (slot : Nat)
    {content : Section}
    (cubic : content.Cubic) :
    (converter.convertSection column minY slot
      content).1.blocks.SectionCube := by
  cases layer : content.layer? 0 with
  | none =>
      rw [convertSection_of_empty layer]
      exact Palette.sectionCube_blocks air
  | some primary =>
      rw [convertSection_of_primary layer, blocks_assembled]
      apply converter.table.cube_flooded
      exact converter.cube_visitCells column
        (cubic.layers primary (Array.mem_of_getElem? layer)) _

/-- A column of cubes is sent as cubes. -/
theorem cubes_palettes_convert
    (converter : Converter)
    {column : Column}
    (cubic : column.Cubic)
    (minY : Int32) :
    ∀ palette ∈ (converter.convert column minY).palettes,
      palette.SectionCube := by
  intro palette member
  obtain ⟨slot, known⟩ := Array.getElem?_of_mem member
  rw [getElem?_palettes_convert, Option.map_eq_some_iff] at known
  obtain ⟨content, there, rfl⟩ := known
  exact converter.cube_convertSection column minY slot
    (cubic content (Array.mem_of_getElem? there))

end Converter

/-! ## Stores -/

namespace Store

/--
The columns of a store consist of cubes, and so do the blocks that it sent.
-/
structure Sound (store : Store) : Prop where
  columns : ∀ (pos : ColumnPos) (column : Column),
    store.columns[pos]? = some column → column.Cubic
  converted : store.Cubic

theorem sound_create
    (settings : Settings)
    (converter : Converter) :
    (create settings converter).Sound where
  columns := fun _ _ known => by simp [create] at known
  converted := fun _ _ known => by simp [create] at known

/-- What is not of columns or their blocks does not matter. -/
theorem Sound.congr
    {store other : Store}
    (sound : store.Sound)
    (columns : other.columns = store.columns)
    (converted : other.converted = store.converted) :
    other.Sound where
  columns := by
    rw [columns]
    exact sound.columns
  converted := by
    rw [Cubic, converted]
    exact sound.converted

/-- A section that is accepted has the right shape. -/
theorem shape_of_accept
    {store : Store}
    {pos : SectionPos}
    {content : Section}
    {slot : Nat}
    (accepted : store.accept pos content = .ok slot) :
    content.checkShape = .ok () := by
  rw [accept] at accepted
  split at accepted
  · cases accepted
  · split at accepted
    · cases accepted
    · split at accepted
      · cases accepted
      · split at accepted
        · cases accepted
        · next shape => exact shape

variable {store : Store} (sound : store.Sound)
include sound

/-- What is still converted once a column is forgotten was converted before. -/
theorem Sound.cubic_forgetDerived (pos : ColumnPos) :
    (store.forgetDerived pos).Cubic := by
  intro other palettes known
  simp only [forgetDerived, Std.TreeMap.getElem?_erase] at known
  split at known
  · cases known
  · exact sound.converted other palettes known

theorem Sound.createColumn
    (pos : ColumnPos)
    (declared : Nat) :
    (store.createColumn pos declared).store.Sound := by
  have started : Sound { store.forgetDerived pos with
      columns :=
        store.columns.insert pos
          (.create pos store.sectionCount declared) } := by
    constructor
    · intro other column known
      simp only [Std.TreeMap.getElem?_insert] at known
      split at known
      · cases known
        exact Column.cubic_create _ _ _
      · exact sound.columns other column known
    · exact sound.cubic_forgetDerived pos
  rw [Store.createColumn]
  split
  · dsimp only
    split <;> exact started
  · exact sound

theorem Sound.unloadColumn (pos : ColumnPos) :
    (store.unloadColumn pos).store.Sound := by
  rw [Store.unloadColumn]
  split
  · exact sound
  · constructor
    · intro other column known
      simp only [forgetDerived, Std.TreeMap.getElem?_erase] at known
      split at known
      · cases known
      · exact sound.columns other column known
    · exact sound.cubic_forgetDerived pos

theorem Sound.unloadAll (positions : List ColumnPos) :
    (store.unloadAll positions).1.Sound :=
  unloadAll_induction (fun store _ => store.Sound)
    (fun _ _ pos before => before.unloadColumn pos) sound positions

theorem Sound.modify
    (pos : ColumnPos)
    {change : Column → Column}
    (kept : ∀ column : Column, column.Cubic → (change column).Cubic) :
    Sound { store with columns := store.columns.modify pos change } where
  columns := by
    intro other column known
    simp only [Std.TreeMap.getElem?_modify] at known
    split at known
    · obtain ⟨old, there, rfl⟩ := Option.map_eq_some_iff.1 known
      exact kept old (sound.columns pos old there)
    · exact sound.columns other column known
  converted := sound.converted

theorem Sound.modifyColumn
    (pos : ColumnPos)
    {change : Column → Column}
    (kept : ∀ column : Column, column.Cubic → (change column).Cubic) :
    (store.modifyColumn pos change).Sound := by
  rw [Store.modifyColumn]
  split
  · exact sound.modify pos kept
  · exact sound

theorem Sound.writeSection
    (pos : SectionPos)
    {content : Section}
    (cubic : content.Cubic) :
    (store.modifySection pos fun _ => content).Sound := by
  rw [Store.modifySection]
  split
  · exact sound.modifyColumn pos.column fun column before =>
      before.modifySection (fun _ _ => cubic) _
  · exact sound

theorem Sound.cubic_section
    {pos : SectionPos}
    {content : Section}
    (found : store.section? pos = some content) :
    content.Cubic := by
  simp only [section?, Option.bind_eq_bind, Option.bind_eq_some_iff] at found
  obtain ⟨slot, -, column, loaded, there⟩ := found
  exact sound.columns pos.column column (columns_of_column? loaded) content
    (Array.mem_of_getElem? there)

theorem Sound.applyChange
    {update : BlockUpdate}
    (layer : update.layer < maxLayers)
    {content : Section}
    (cubic : content.Cubic) :
    (store.applyChange update.pos update.layer update.source
      content).store.Sound := by
  have written :
      content.setBlock update.layer update.pos.inSection.1
        update.pos.inSection.2.1 update.pos.inSection.2.2
        store.table.sourceAir update.source =
        some (content.edited store.table.sourceAir update.edit) :=
    @Section.setBlock_eq_edited update.edit layer content
      store.table.sourceAir
  have changed := sound.writeSection update.pos.sectionPos
    (cubic.edited update.inside_edit store.table.sourceAir)
  rw [Store.applyChange]
  simp only [written]
  split
  · exact changed.modifyColumn _ fun column before =>
      before.congr (column.sections_removeEntityAt update.pos)
  · exact changed

theorem Sound.changeBlock (update : BlockUpdate) :
    (store.changeBlock update.pos update.layer
      update.source).store.Sound := by
  rw [Store.changeBlock]
  split
  · exact sound
  · next shallow =>
      have layer : update.layer < maxLayers := Nat.not_le.1 shallow
      split
      · exact sound
      · next content found =>
          have cubic := sound.cubic_section found
          dsimp only
          split
          · next logged buffered =>
              cases waiting : content.pending with
              | none =>
                  rw [Section.bufferEdit_of_arrived waiting] at buffered
                  cases buffered
              | some log =>
                  have kept :=
                    @Section.bufferEdit_of_pending update.edit layer content
                      log waiting
                  obtain rfl := Option.some.inj (kept.symm.trans buffered)
                  exact sound.writeSection _ (cubic.logged update.inside_edit)
          · exact sound.applyChange layer cubic

theorem Sound.mergeSection
    (pos : SectionPos)
    {content : Section}
    (wellFormed : ∀ palette ∈ content.layers, palette.WellFormed)
    (entities : List SourceEntity) :
    (store.mergeSection pos content entities).store.Sound := by
  have landed : Sound { store with inFlight := store.inFlight.erase pos } :=
    sound.congr rfl rfl
  rw [Store.mergeSection]
  split
  · exact landed
  · next slot accepted =>
      have shape : content.checkShape = .ok () := shape_of_accept accepted
      have cubes :=
        Section.cubes_normalize (Section.cubes_of_checkShape shape wellFormed)
          store.table
      have filled := landed.modify pos.column fun column before =>
        before.fill cubes slot store.table.sourceAir entities
      exact filled.congr rfl rfl

theorem Sound.setView (view : ViewWindow) :
    Sound { store with view := view } :=
  sound.congr rfl rfl

theorem Sound.want (pos : SectionPos) : (store.want pos).1.Sound := by
  rw [want_eq]
  exact sound.congr rfl rfl

theorem Sound.wantRange
    (pos : ColumnPos)
    (first last : Int32) :
    (store.wantRange pos first last).Sound := by
  rw [wantRange_eq]
  exact sound.congr rfl rfl

omit sound

theorem Sound.sendColumn
    {state : TickState}
    (sound : state.store.Sound)
    (pos : ColumnPos) :
    (state.sendColumn pos).store.Sound := by
  cases loaded : state.store.column? pos with
  | none =>
      rw [TickState.sendColumn_of_not_loaded loaded]
      exact sound
  | some column =>
      have cubic := sound.columns pos column (columns_of_column? loaded)
      rw [(TickState.sendColumn_of_loaded loaded).1, relightNeighbors_eq]
      constructor
      · exact sound.columns
      · intro other palettes known
        have known := (Std.TreeMap.getElem?_insert.symm.trans known)
        split at known
        · cases known
          exact state.store.converter.cubes_palettes_convert cubic
            state.store.minY
        · exact sound.converted other palettes known

theorem Sound.sendDue
    (budget : Nat)
    {state : TickState}
    (sound : state.store.Sound) :
    (state.sendDue budget).store.Sound := by
  apply TickState.sendDue_induction (·.store.Sound) _ sound
  intro state pos dirty _ sound
  have taken : Sound { state.store with dirty := dirty } :=
    sound.congr rfl rfl
  exact taken.sendColumn pos

theorem Sound.tick
    {store : Store}
    (sound : store.Sound)
    (cache : LightCache)
    (spawned : Bool) :
    (store.tick cache spawned).1.store.Sound := by
  obtain ⟨light, relight, wanted, inFlight, after⟩ :=
    store.exists_store_tick cache spawned
  rw [after]
  exact (Sound.sendDue _ sound).congr rfl rfl

/-! ## Runs -/

end Store

/--
The layers that an operation delivers are well formed, if it delivers any.
-/
def StoreOperation.WellFormed : StoreOperation → Prop
  | .mergeSection _ content _ =>
      ∀ palette ∈ content.layers, palette.WellFormed
  | _ => True

namespace Store

theorem Sound.perform
    {store : Store}
    (sound : store.Sound)
    {operation : StoreOperation}
    (wellFormed : operation.WellFormed) :
    (store.perform operation).1.Sound := by
  cases operation with
  | createColumn pos declared => exact sound.createColumn pos declared
  | unloadColumn pos => exact sound.unloadColumn pos
  | setCenter center => exact (sound.setView _).unloadAll _
  | setRadius radius => exact (sound.setView _).unloadAll _
  | setPlayer player => exact sound.congr rfl rfl
  | markDirty pos => exact sound.congr rfl rfl
  | want pos => exact sound.want pos
  | wantRange pos first last => exact sound.wantRange pos first last
  | mergeSection pos content entities =>
      exact sound.mergeSection pos wellFormed entities
  | changeBlock pos layer source =>
      exact sound.changeBlock ⟨pos, layer, source⟩
  | addEntity entity =>
      exact sound.modifyColumn _ fun column cubic =>
        cubic.congr (column.sections_removeEntityAt entity.position)
  | tick cache spawned => exact sound.tick cache spawned

/-- Whatever happened to a store, its columns consist of cubes. -/
theorem Sound.run
    {operations : List StoreOperation}
    (wellFormed : ∀ operation ∈ operations, operation.WellFormed)
    {store : Store}
    (sound : store.Sound) :
    (store.run operations).Sound := by
  induction operations generalizing store with
  | nil => exact sound
  | cons operation rest ih =>
      exact ih
        (fun later member => wellFormed later (List.mem_cons_of_mem _ member))
        (sound.perform (wellFormed operation List.mem_cons_self))

end Store

end VoxelRelay
