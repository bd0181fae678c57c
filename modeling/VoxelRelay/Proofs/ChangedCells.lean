import VoxelRelay.Proofs.CellPositions
import VoxelRelay.Proofs.CheckedChanges
import VoxelRelay.Proofs.ColumnRecords
import VoxelRelay.Proofs.DeferredChanges
import VoxelRelay.Proofs.DerivedState
import VoxelRelay.Proofs.EditedSections
import VoxelRelay.Proofs.SharedCache

/-!
# What the client is told of a changed cell

A block change is answered with the state that the client is to show, and the
same cell is converted once more when its column is sent.  The answer is the
state of the cell by itself, unless the change gives the cell another block
whose record puts a state in place of the mapped one: then it is that state,
as it is.  The column is converted from the block of the primary layer alone:
its record is asked at every time, and the state goes under water last.

So both are the same as long as no record puts a state in place of a mapped
one.  Where one does, they are the same if the change gives the primary layer
another block and the cell is not under water, and may differ in each other
case.
-/

namespace VoxelRelay

open Palette

namespace Converter

variable
    {converter : Converter}
    {column : Column}
    {pos : BlockPos}
    {source : UInt32}

/--
The state that a record at a position puts in place of the mapped one of a
source block.
-/
def overrideFor?
    (converter : Converter)
    (column : Column)
    (pos : BlockPos)
    (source : UInt32) : Option UInt32 :=
  (converter.entityFor? column pos source).bind (·.stateOverride)

theorem stateFor_eq
    (converter : Converter)
    (column : Column)
    (pos : BlockPos)
    (source : UInt32) :
    converter.stateFor column pos source =
      (converter.overrideFor? column pos source).getD
        (converter.table.destinationOrAir source) :=
  rfl

/-- Without a record no state is put in place of the mapped one. -/
theorem overrideFor?_of_absent
    (absent : column.entityAt? pos = none)
    (source : UInt32) :
    converter.overrideFor? column pos source = none := by
  rw [overrideFor?, entityFor?, absent, Option.bind_assoc]
  refine Option.bind_eq_none_iff.2 fun tag _ => ?_
  cases converter.table.entityType? tag <;> rfl

/--
The block entity to show for a changed block puts its state in place of any
other.
-/
theorem fst_changedEntity (destination : UInt32) :
    (Store.changedEntity converter column pos source destination).1 =
      (converter.overrideFor? column pos source).getD destination := by
  rw [Store.changedEntity, overrideFor?, entityFor?]
  cases converter.ownerTag? source with
  | none => rfl
  | some tag =>
      rw [Option.bind_some]
      cases column.entityAt? pos with
      | some record =>
          dsimp only
          cases converter.entities.convertEntity? source record <;> rfl
      | none =>
          dsimp only
          cases converter.table.entityType? tag <;> rfl

end Converter

/-- The state at a place of a section of a converted column. -/
def TargetColumn.stateAt?
    (column : TargetColumn)
    (slot : Nat)
    (place : Place) : Option UInt32 :=
  column.sections[slot]?.map (·.blocks.read place)

/-! ## Columns that are updated -/

theorem Column.pos_updated
    (column : Column)
    (table : MappingTable)
    (slot : Nat)
    (update : BlockUpdate) :
    (column.updated table slot update).pos = column.pos := by
  rw [updated]
  split
  · exact pos_removeEntityAt _ _
  · rfl

theorem Column.Distinct.updated
    {column : Column}
    (distinct : column.Distinct)
    (table : MappingTable)
    (slot : Nat)
    (update : BlockUpdate) :
    (column.updated table slot update).Distinct := by
  have written :
      (column.modifySection slot
        (·.edited table.sourceAir update.edit)).Distinct :=
    distinct.congr rfl
  rw [Column.updated]
  split
  · exact written.removeEntityAt update.pos
  · exact written

/-! ## The two states -/

namespace Store

/-- A store has a position in a section of a column. -/
structure Holds
    (store : Store)
    (pos : BlockPos)
    (column : Column)
    (slot : Nat)
    (content : Section) : Prop where
  loaded : store.column? pos.column = some column
  inside : store.slot? pos.sectionPos.y = some slot
  found : column.section? slot = some content

theorem Holds.unique
    {store : Store}
    {pos : BlockPos}
    {column other : Column}
    {slot place : Nat}
    {content written : Section}
    (first : store.Holds pos column slot content)
    (second : store.Holds pos other place written) :
    column = other ∧ slot = place ∧ content = written := by
  obtain rfl := Option.some.inj (first.loaded.symm.trans second.loaded)
  obtain rfl := Option.some.inj (first.inside.symm.trans second.inside)
  exact ⟨rfl, rfl, Option.some.inj (first.found.symm.trans second.found)⟩

/-- A change meets a section whose content is there. -/
structure Meets
    (store : Store)
    (update : BlockUpdate)
    (column : Column)
    (slot : Nat)
    (content : Section) : Prop
    extends store.Holds update.pos column slot content where
  arrived : content.pending = none
  layer : update.layer < maxLayers

/-- The store after a change. -/
def after (store : Store) (update : BlockUpdate) : Store :=
  (store.changeBlock update.pos update.layer update.source).store

/--
The state that a change is answered with: that of the cell by itself, or the one
that the record of another block puts in its place.
-/
def answer
    (store : Store)
    (update : BlockUpdate)
    (column : Column) : UInt32 :=
  if store.blockAt update.layer update.pos = update.source then
    (store.after update).destinationAt update.pos
  else
    (store.converter.overrideFor? column update.pos update.source).getD
      ((store.after update).destinationAt update.pos)

/--
The state of a changed cell when its column is sent: the one for its primary
block, which a record may put in place of the mapped one, wet if it is under
water.
-/
def sentState
    (store : Store)
    (update : BlockUpdate)
    (column : Column)
    (content : Section) : UInt32 :=
  content.soaked store.table update.pos.inSection
    (store.converter.stateFor column update.pos
      ((store.after update).blockAt 0 update.pos))

/--
No record puts a state in place of the one for the changed cell, nor of the one
for another block that was written; or the change gives the primary layer
another block, and the state that its record puts in place, if it does, has no
other form in the cell.
-/
def Undisturbed
    (store : Store)
    (update : BlockUpdate)
    (column : Column)
    (content : Section) : Prop :=
  store.converter.overrideFor? column update.pos
    ((store.after update).blockAt 0 update.pos) =
      none ∧
    (store.blockAt update.layer update.pos = update.source ∨
      store.converter.overrideFor? column update.pos update.source = none) ∨
  update.layer = 0 ∧ store.blockAt update.layer update.pos ≠ update.source ∧
    ∀ state ∈ store.converter.overrideFor? column update.pos update.source,
      content.soaked store.table update.pos.inSection state = state

variable
    {store : Store}
    {update : BlockUpdate}
    {column : Column}
    {slot : Nat}
    {content : Section}

/-- Only a change that meets the content of a section is applied. -/
theorem exists_meets_of_applied
    {destination : UInt32}
    {entity : Option TargetEntity}
    (applied : (store.changeBlock update.pos update.layer
        update.source).value = .applied destination entity) :
    ∃ column slot content, store.Meets update column slot content := by
  by_cases layer : update.layer < maxLayers
  · cases there : store.section? update.pos.sectionPos with
    | none =>
        rw [changeBlock, if_neg (Nat.not_le.2 layer), there] at applied
        cases applied
    | some content =>
        have whole := there
        simp only [section?, Option.bind_eq_bind, Option.bind_eq_some_iff]
          at whole
        obtain ⟨slot, inside, column, loaded, found⟩ := whole
        cases waiting : content.pending with
        | none =>
            exact ⟨column, slot, content, ⟨loaded, inside, found⟩, waiting,
              layer⟩
        | some log =>
            have logged :=
              @Section.bufferEdit_of_pending update.edit layer content
                log waiting
            rw [BlockUpdate.edit] at logged
            rw [changeBlock, if_neg (Nat.not_le.2 layer), there] at applied
            simp only [logged] at applied
            cases applied
  · rw [changeBlock, if_pos (Nat.not_lt.1 layer)] at applied
    cases applied

namespace Meets

variable (meets : store.Meets update column slot content)
include meets

theorem revised :
    store.Revised update.pos.sectionPos.column
      (column.updated store.table slot update) (store.after update) := by
  have current : store.columns[update.pos.sectionPos.column]? = some column :=
    columns_of_column? meets.loaded
  have shown : store.view.loads update.pos.sectionPos.column = true :=
    loads_of_column? meets.loaded
  exact ((revised_self current).changeBlock_of_arrived shown meets.inside
    meets.found meets.layer rfl meets.arrived).2

/-- The changed cell lies in the section that was written. -/
theorem holds_after :
    (store.after update).Holds update.pos
      (column.updated store.table slot update) slot
      (content.edited store.table.sourceAir update.edit) where
  loaded := meets.revised.column?_self (loads_of_column? meets.loaded)
  inside := (slot?_congr meets.revised.settings_eq _).trans meets.inside
  found := by rw [Column.section?_updated, meets.found, Option.map_some]

/-- The block that is replaced. -/
theorem blockAt_eq :
    store.blockAt update.layer update.pos =
      column.replaced store.table slot update := by
  have current : store.columns[update.pos.sectionPos.column]? = some column :=
    columns_of_column? meets.loaded
  have shown : store.view.loads update.pos.sectionPos.column = true :=
    loads_of_column? meets.loaded
  exact (revised_self current).blockAt_eq shown meets.inside rfl

theorem section?_after :
    (store.after update).section? update.pos.sectionPos =
      some (content.edited store.table.sourceAir update.edit) :=
  meets.revised.section?_eq (loads_of_column? meets.loaded) meets.inside
    meets.holds_after.found

theorem blockAt_after (layer : Nat) :
    (store.after update).blockAt layer update.pos =
      ((content.edited store.table.sourceAir update.edit).blockAt? layer
        update.pos.inSection.1 update.pos.inSection.2.1
        update.pos.inSection.2.2).getD store.table.sourceAir := by
  rw [blockAt, meets.section?_after, meets.revised.table_eq]
  rfl

/--
The state of the changed cell by itself is the mapped one, wet if it is under
water.
-/
theorem destinationAt_after :
    (store.after update).destinationAt update.pos =
      (content.edited store.table.sourceAir update.edit).soaked store.table
        update.pos.inSection
        (store.table.destinationOrAir
          ((store.after update).blockAt 0 update.pos)) := by
  rw [meets.blockAt_after, destinationAt, meets.section?_after,
    meets.revised.table_eq]
  rfl

/-- A change that meets a section is answered. -/
theorem exists_value_changeBlock :
    ∃ entity,
      (store.changeBlock update.pos update.layer update.source).value =
      .applied (store.answer update (column.updated store.table slot update))
        entity := by
  have current := meets.holds_after.loaded
  have there : store.section? update.pos.sectionPos = some content :=
    (revised_self (columns_of_column? meets.loaded)).section?_eq
      (loads_of_column? meets.loaded) meets.inside meets.found
  have previous : store.blockAt update.layer update.pos =
      (content.blockAt? update.layer update.pos.inSection.1
        update.pos.inSection.2.1 update.pos.inSection.2.2).getD
          store.table.sourceAir := by
    rw [meets.blockAt_eq, Column.replaced, meets.found]
    rfl
  have alone : (store.after update).destinationAt update.pos =
      (content.edited store.table.sourceAir update.edit).destinationState
        store.table update.pos.inSection.1 update.pos.inSection.2.1
        update.pos.inSection.2.2 := by
    rw [destinationAt, meets.section?_after, meets.revised.table_eq]
  have applying : store.changeBlock update.pos update.layer update.source =
      store.applyChange update.pos update.layer update.source content := by
    rw [changeBlock, if_neg (Nat.not_le.2 meets.layer), there]
    simp only [Section.bufferEdit_of_arrived meets.arrived]
  have written :
      content.setBlock update.layer update.pos.inSection.1
        update.pos.inSection.2.1 update.pos.inSection.2.2
        store.table.sourceAir update.source =
        some (content.edited store.table.sourceAir update.edit) :=
    @Section.setBlock_eq_edited update.edit meets.layer content
      store.table.sourceAir
  rw [answer, alone]
  rw [after] at current
  rw [applying, applyChange_of_written written, ← previous] at current ⊢
  rw [changeOutcome] at current ⊢
  dsimp only at current ⊢
  rw [current]
  dsimp only
  split
  · exact ⟨_, rfl⟩
  · rw [← Converter.fst_changedEntity]
    exact ⟨_, rfl⟩

section

variable
    (shows : store.table.ShowsAir)
    (multiple : store.minY.toInt % 16 = 0)
    (pos : column.pos = update.pos.column)
    (checked : content.Checked)
    (room : ∀ primary,
      (content.edited store.table.sourceAir update.edit).layer? 0 =
        some primary → store.converter.HasRoom primary)
include checked room

/-- The block that a change of the primary layer gives to the cell. -/
theorem blockAt_after_of_primary (lowest : update.layer = 0) :
    (store.after update).blockAt 0 update.pos = update.source := by
  obtain ⟨written, found⟩ :=
    @Section.exists_primary_edited update.edit meets.layer content
      store.table.sourceAir
  have few := (room written found).ids_le
  have layer : update.edit.layer = 0 := lowest
  rw [← layer] at found
  have read :=
    Section.blockAt?_edited checked meets.layer update.inside_edit found few
  rw [layer] at read
  rw [meets.blockAt_after]
  exact congrArg (·.getD store.table.sourceAir) read

/-- The answer is the state that is sent, if no record disturbs. -/
theorem answer_eq_sentState
    (undisturbed : store.Undisturbed update
      (column.updated store.table slot update)
      (content.edited store.table.sourceAir update.edit)) :
    store.answer update (column.updated store.table slot update) =
      store.sentState update (column.updated store.table slot update)
        (content.edited store.table.sourceAir update.edit) := by
  rw [answer, sentState, Converter.stateFor_eq, meets.destinationAt_after]
  rcases undisturbed with ⟨below, unchanged | plain⟩ | ⟨lowest, other, dry⟩
  · rw [below, if_pos unchanged]
    rfl
  · rw [below, plain, Option.getD_none, Option.getD_none, ite_self]
    rfl
  · rw [if_neg other, meets.blockAt_after_of_primary checked room lowest]
    cases override :
        store.converter.overrideFor? (column.updated store.table slot update)
        update.pos update.source with
    | none => rfl
    | some state => exact (dry state override).symm

include shows multiple pos

/-- The changed cell of the column that is sent. -/
theorem stateAt?_convert :
    (store.converter.convert (column.updated store.table slot update)
      store.minY).stateAt? slot
        update.pos.inSection =
      some (store.sentState update (column.updated store.table slot update)
        (content.edited store.table.sourceAir update.edit)) := by
  obtain ⟨primary, found⟩ :=
    @Section.exists_primary_edited update.edit meets.layer content
      store.table.sourceAir
  have fits :
      store.converter.Fits
        (content.edited store.table.sourceAir update.edit) :=
          ⟨checked.edited update.inside_edit _, room⟩
  have below : (store.after update).blockAt 0 update.pos =
      primary.read update.pos.inSection := by
    rw [meets.blockAt_after, Section.blockAt?, found]
    rfl
  have member : update.pos.inSection ∈ placesOf 16 :=
    mem_placesOf_iff.2 update.inside_edit
  have known : (column.updated store.table slot update).sections[slot]? =
      some (content.edited store.table.sourceAir update.edit) :=
        meets.holds_after.found
  have here : (column.updated store.table slot update).pos =
      update.pos.column :=
    (column.pos_updated store.table slot update).trans pos
  have place :=
    @position_inSection store multiple update.pos slot meets.inside
      (store.converter.planFor (column.updated store.table slot update)
        store.minY slot primary)
      here rfl
  rw [TargetColumn.stateAt?, Converter.convert]
  simp only [Array.getElem?_map, Array.getElem?_mapIdx, known,
    Option.map_some]
  rw [fits.read_convertSection found _ _ _ member, sentState, below,
    Section.soaked_of_primary shows found, VisitPlan.state, place]
  rfl

end

end Meets

/-! ## Runs -/

theorem run_changeBlocks
    (store : Store)
    (updates : List BlockUpdate) :
    store.run
      (updates.map fun update =>
        .changeBlock update.pos update.layer update.source) =
      (store.changeBlocks updates).1 := by
  induction updates generalizing store with
  | nil => rfl
  | cons update rest ih => exact ih _

/--
The sections of a store that was reached by deliveries of well-formed
palettes.
-/
theorem checked_run
    {settings : Settings}
    {converter : Converter}
    {operations : List StoreOperation}
    (delivers : ∀ operation ∈ operations, operation.DeliversWellFormed)
    {pos : ColumnPos}
    {column : Column}
    (known : ((create settings converter).run operations).columns[pos]? =
      some column)
    {slot : Nat}
    {content : Section}
    (found : column.section? slot = some content) :
    content.Checked := by
  have shaped : ∃ count, column.Shaped count := by
    refine @columns_run (fun _ column => ∃ count, column.Shaped count)
      operations
      (fun pos count declared =>
        ⟨count, Column.shaped_create pos count declared⟩) ?_
        (create settings converter) (fun pos column known => ?_) pos
          column known
    · rintro operation member store pos old column change ⟨count, shaped⟩
      exact ⟨count,
        .of_columnChange (delivers operation member) change shaped⟩
    · exact absurd known (by simp [create])
  obtain ⟨count, shaped⟩ := shaped
  exact (shaped.section? found).toChecked

/--
In whatever state a store is reached, a change that is applied is answered with
the state of its cell by itself, unless the record of another block puts a state
in its place, and the cell is sent with the state for its primary block.  Both
are the same where no record disturbs.
-/
theorem answer_eq_sent_run
    {settings : Settings}
    (valid : settings.world.IsValid)
    {converter : Converter}
    {sourceAir replacement : UInt32}
    {entries : List MappingTable.Registration}
    (built : entries.foldlM MappingTable.register
      (.create sourceAir replacement) = .ok converter.table)
    {operations : List StoreOperation}
    (delivers : ∀ operation ∈ operations, operation.DeliversWellFormed)
    {update : BlockUpdate}
    {destination : UInt32}
    {entity : Option TargetEntity}
    (applied : (((create settings converter).run operations).changeBlock
        update.pos update.layer update.source).value =
        .applied destination entity) :
    let store := (create settings converter).run operations
    ∃ column slot content,
      (store.after update).Holds update.pos column slot content ∧
      destination = store.answer update column ∧
      ((∀ primary, content.layer? 0 = some primary →
          store.converter.HasRoom primary) →
        (store.converter.convert column store.minY).stateAt? slot
          update.pos.inSection =
          some (store.sentState update column content) ∧
        (store.Undisturbed update column content →
          (store.converter.convert column store.minY).stateAt? slot
            update.pos.inSection =
            some destination)) := by
  intro store
  obtain ⟨column, slot, content, meets⟩ := exists_meets_of_applied applied
  have same := sameTables_run (create settings converter) operations
  have shows : store.table.ShowsAir := by
    rw [table, same.converter_eq]
    exact MappingTable.showsAir_of_registered built
  have multiple : store.minY.toInt % 16 = 0 := by
    rw [minY, same.settings_eq]
    exact valid.2.2
  have known := columns_of_column? meets.loaded
  have pos :=
    ((consistent_create settings converter).run operations).pos_eq _ _ known
  have checked := checked_run delivers known meets.found
  obtain ⟨shown, answered⟩ := meets.exists_value_changeBlock
  obtain ⟨answer, -⟩ := BlockChange.applied.inj (applied.symm.trans answered)
  refine ⟨_, slot, _, meets.holds_after, answer, fun room => ?_⟩
  have sent := meets.stateAt?_convert shows multiple pos checked room
  refine ⟨sent, fun undisturbed => ?_⟩
  rw [sent, answer, meets.answer_eq_sentState checked room undisturbed]

/-- A change is answered with one state, and its cell is sent with one. -/
def Told
    (store : Store)
    (update : BlockUpdate)
    (answered sent : UInt32) : Prop :=
  ∃ entity column slot content,
    (store.changeBlock update.pos update.layer update.source).value =
      .applied answered entity ∧
    (store.after update).Holds update.pos column slot content ∧
    (store.converter.convert column store.minY).stateAt? slot
      update.pos.inSection = some sent

/-! ## A chest in a cellar -/

/--
Chests of two kinds, those with a record in a state of their own, which has a
wet form.
-/
def cellarEntries : List MappingTable.Registration :=
  [.block 5000 7 "chest", .block 5001 8 "chest", .block 6 6 "water",
    .block 3 3 none, .state 9 ⟨0, 0, false, some 10⟩, .entity "chest" 1,
    .entityState "chest" 9]

def cellarTable : MappingTable :=
  cellarEntries.foldl MappingTable.added (.create 0 0)

def cellarConverter : Converter := ⟨cellarTable, cellarTable⟩

theorem blocks_cellarTable (source : UInt32) :
    cellarTable.blocks[source]? =
      if source = 3 then some ⟨3, none⟩
      else if source = 6 then some ⟨6, some "water"⟩
      else if source = 5001 then some ⟨8, some "chest"⟩
      else if source = 5000 then some ⟨7, some "chest"⟩
      else if source = 0 then some ⟨air, none⟩ else none := by
  have listed : cellarTable.blocks =
      (((((∅ : Std.HashMap UInt32 SourceBlock).insert 0 ⟨air, none⟩).insert
          5000 ⟨7, some "chest"⟩).insert 5001 ⟨8, some "chest"⟩).insert 6
          ⟨6, some "water"⟩).insert 3
          ⟨3, none⟩ := rfl
  simp only [listed, Std.HashMap.getElem?_insert, Std.HashMap.getElem?_empty,
    beq_iff_eq, @eq_comm _ _ source]

theorem built_cellarTable :
    cellarEntries.foldlM MappingTable.register (.create 0 0) =
      .ok cellarTable := by
  simp [cellarEntries, cellarTable, MappingTable.register,
    MappingTable.create, MappingTable.added, Std.HashMap.contains_insert,
    bind, Except.bind, air, pure, Except.pure]

theorem tag?_cellarTable (source : UInt32) :
    cellarTable.tag? source =
      if source = 6 then some "water"
      else if source = 5001 ∨ source = 5000 then some "chest" else none := by
  rw [MappingTable.tag?, blocks_cellarTable]
  split_ifs <;> simp_all

theorem destinationOrAir_cellarTable (source : UInt32) :
    cellarTable.destinationOrAir source =
      if source = 3 then 3
      else if source = 6 then 6
      else if source = 5001 then 8
      else if source = 5000 then 7 else 0 := by
  rw [MappingTable.destinationOrAir, MappingTable.destination?,
    blocks_cellarTable]
  split_ifs <;> rfl

theorem waterlogged?_cellarTable : cellarTable.waterlogged? 9 = some 10 := by
  simp [cellarTable, cellarEntries, MappingTable.added,
    MappingTable.waterlogged?]

/-- What is kept in the chest of the cellar. -/
def cellarRecord : SourceEntity := ⟨⟨1, 2, 3⟩, .emptyObject⟩

/-- A chest that has a record is shown in a state of its own. -/
theorem overrideFor?_cellarConverter
    {column : Column}
    {pos : BlockPos}
    {record : SourceEntity}
    (known : column.entityAt? pos = some record)
    (source : UInt32) :
    cellarConverter.overrideFor? column pos source =
      if source = 5001 ∨ source = 5000 then some 9 else none := by
  have owns : cellarTable.ownsEntity "chest" = true ∧
      cellarTable.ownsEntity "water" = false := by
    simp [cellarTable, cellarEntries, MappingTable.added, MappingTable.create,
      MappingTable.ownsEntity]
  have type : cellarTable.entityType? "chest" = some 1 := by
    simp [cellarTable, cellarEntries, MappingTable.added,
      MappingTable.entityType?]
  have state : cellarTable.entityStates["chest"]? = some 9 := by
    simp [cellarTable, cellarEntries, MappingTable.added]
  have owner : cellarConverter.ownerTag? source =
      if source = 5001 ∨ source = 5000 then some "chest" else none := by
    show (cellarTable.tag? source).filter cellarTable.ownsEntity = _
    rw [tag?_cellarTable]
    split_ifs with water <;> simp_all [Option.filter]
  rw [Converter.overrideFor?, Converter.entityFor?, owner, known]
  split_ifs with chest
  · have tag : cellarTable.tag? source = some "chest" := by
      rw [tag?_cellarTable,
        if_neg (by rcases chest with rfl | rfl <;> decide), if_pos chest]
    show (cellarTable.convertEntity? source record).bind (·.stateOverride) = _
    simp [MappingTable.convertEntity?, tag, type, state]
  · rfl

/-- A chest is put into the cellar. -/
def chestPut : BlockUpdate := ⟨⟨1, 2, 3⟩, 0, 5000⟩

/-- The cellar is flooded. -/
def cellarFlooded : BlockUpdate := ⟨⟨1, 2, 3⟩, 1, 6⟩

/-- The chest is taken for one of the other kind. -/
def chestTurned : BlockUpdate := ⟨⟨1, 2, 3⟩, 0, 5001⟩

/-- A vine grows over the chest. -/
def chestCovered : BlockUpdate := ⟨⟨1, 2, 3⟩, 1, 3⟩

/--
Changes in a column that is there from the start, and a record after them.
-/
def cellarRun (updates : List BlockUpdate) : List StoreOperation :=
  .createColumn ⟨0, 0⟩ 24 ::
    (updates.map fun update =>
      .changeBlock update.pos update.layer update.source) ++
        [.addEntity cellarRecord]

def cellarStore (updates : List BlockUpdate) : Store :=
  (create .standard cellarConverter).run (cellarRun updates)

theorem delivers_cellarRun (updates : List BlockUpdate) :
    ∀ operation ∈ cellarRun updates, operation.DeliversWellFormed := by
  intro operation member
  simp only [cellarRun, List.cons_append, List.mem_cons, List.mem_append,
    List.mem_map, List.not_mem_nil, or_false] at member
  rcases member with rfl | ⟨update, -, rfl⟩ | rfl <;> trivial

/-- The column of the cellar before it is changed. -/
def cellarColumn : Column := .create ⟨0, 0⟩ 24 24

theorem section?_cellarColumn : cellarColumn.section? 4 = some .empty := by
  simp [cellarColumn, Column.create, Column.section?]

/-- The section of the cellar after changes. -/
def cellarSection (updates : List BlockUpdate) : Section :=
  (updates.map BlockUpdate.edit).foldl (Section.edited 0) .empty

theorem cellarSection_concat
    (updates : List BlockUpdate)
    (update : BlockUpdate) :
    cellarSection (updates ++ [update]) =
      (cellarSection updates).edited 0 update.edit := by
  simp [cellarSection]

/-- The column of the cellar after changes, with the record. -/
def changedCellar (updates : List BlockUpdate) : Column :=
  (updates.foldl (Column.updated cellarTable 4) cellarColumn).putEntity
    cellarRecord

theorem revised_cellarStore
    {updates : List BlockUpdate}
    (here : ∀ update ∈ updates, update.pos.sectionPos = ⟨0, 0, 0⟩ ∧
      update.layer < maxLayers) :
    ((create .standard cellarConverter).run [.createColumn ⟨0, 0⟩ 24]).Revised
      ⟨0, 0⟩ (changedCellar updates) (cellarStore updates) := by
  let fresh :=
    (create .standard cellarConverter).run [.createColumn ⟨0, 0⟩ 24]
  have started : fresh.columns[(⟨0, 0, 0⟩ : SectionPos).column]? =
      some cellarColumn := rfl
  have shown : fresh.view.loads (⟨0, 0, 0⟩ : SectionPos).column = true := by
    decide
  have inside : fresh.slot? (⟨0, 0, 0⟩ : SectionPos).y = some 4 := by decide
  have changed :=
    ((revised_self started).changeBlocks_of_arrived
      shown inside section?_cellarColumn here rfl).2
  have stored := changed.modifyColumn shown (·.putEntity cellarRecord)
  have reached : cellarStore updates =
      ((fresh.changeBlocks updates).1.addEntity cellarRecord) := by
    rw [cellarStore, cellarRun, List.cons_append, ← List.singleton_append,
      run_append, run_append, run_changeBlocks]
    rfl
  rw [reached]
  exact stored

theorem section?_changedCellar (updates : List BlockUpdate) :
    (changedCellar updates).section? 4 = some (cellarSection updates) := by
  have written :=
    Column.sections_foldl_updated cellarTable 4 updates cellarColumn
  have kept : (changedCellar updates).sections =
      (updates.foldl (Column.updated cellarTable 4) cellarColumn).sections :=
    Column.sections_removeEntityAt _ _
  rw [Column.section?, kept, written]
  refine (Column.section?_modifySection _ _ _).trans ?_
  rw [section?_cellarColumn]
  rfl

theorem meets_cellarStore
    {updates : List BlockUpdate}
    {update : BlockUpdate}
    (here : ∀ other ∈ update :: updates, other.pos.sectionPos = ⟨0, 0, 0⟩ ∧
      other.layer < maxLayers) :
    (cellarStore updates).Meets update (changedCellar updates) 4
      (cellarSection updates) := by
  obtain ⟨⟨there, layer⟩, before⟩ := List.forall_mem_cons.1 here
  have revised := revised_cellarStore before
  have shown :
      ((create .standard cellarConverter).run
        [.createColumn ⟨0, 0⟩ 24]).view.loads
      ⟨0, 0⟩ = true := by decide
  have column : update.pos.column = ⟨0, 0⟩ := congrArg SectionPos.column there
  refine ⟨⟨?_, ?_, section?_changedCellar updates⟩, ?_, layer⟩
  · rw [column]
    exact revised.column?_self shown
  · rw [there, slot?_congr revised.settings_eq]
    decide
  · exact Section.pending_foldl_edited 0 (updates.map BlockUpdate.edit) .empty

theorem checked_cellarSection (updates : List BlockUpdate) :
    (cellarSection updates).Checked := by
  refine Section.Checked.foldl_edited ?_ (Section.checked_blank none) 0
  intro edit member
  obtain ⟨update, -, rfl⟩ := List.mem_map.1 member
  exact update.inside_edit

theorem entityAt?_changedCellar (updates : List BlockUpdate) :
    (changedCellar updates).entityAt? ⟨1, 2, 3⟩ = some cellarRecord := by
  have distinct :
      (updates.foldl (Column.updated cellarTable 4)
        cellarColumn).Distinct := by
    have start : cellarColumn.Distinct := Column.distinct_create _ _ _
    generalize cellarColumn = column at start
    induction updates generalizing column with
    | nil => exact start
    | cons update rest ih => exact ih _ (start.updated cellarTable 4 update)
  exact Column.entityAt?_putEntity distinct cellarRecord ⟨1, 2, 3⟩

/--
The converter of the cellar has room for its sections after a few changes.
-/
theorem hasRoom_cellarSection
    {updates : List BlockUpdate}
    (layers : ∀ update ∈ updates, update.layer < maxLayers)
    (few : updates.length < 4095)
    {layer : Nat}
    {palette : Palette}
    (found : (cellarSection updates).layer? layer = some palette) :
    cellarConverter.HasRoom palette := by
  have inside : ∀ edit ∈ updates.map BlockUpdate.edit,
      edit.layer < maxLayers ∧ edit.Inside := by
    intro edit member
    obtain ⟨update, there, rfl⟩ := List.mem_map.1 member
    exact ⟨layers update there, update.inside_edit⟩
  have member := Array.mem_of_getElem? found
  have short : palette.ids.size ≤ 1 + updates.length := by
    have bounded :=
      Section.size_ids_foldl_edited_le inside (Section.checked_blank none)
        Nat.one_pos (by rw [List.length_map]; omega)
        (fun palette member => absurd member (Array.not_mem_empty palette))
          palette member
    rwa [List.length_map] at bounded
  have states : cellarConverter.entities.entityStates.size = 1 := by
    simp [cellarConverter, cellarTable, cellarEntries, MappingTable.added,
      MappingTable.create, Std.HashMap.size_insert]
  have cube := (checked_cellarSection updates).cubes palette member
  refine ⟨by omega, fun _ => ?_⟩
  rw [states, cube.size_eq_4096]
  omega

theorem converter_cellarStore (updates : List BlockUpdate) :
    (cellarStore updates).converter = cellarConverter :=
  (sameTables_run (create .standard cellarConverter)
    (cellarRun updates)).converter_eq

theorem table_cellarStore (updates : List BlockUpdate) :
    (cellarStore updates).table = cellarTable :=
  congrArg Converter.table (converter_cellarStore updates)

theorem sourceAir_cellarStore (updates : List BlockUpdate) :
    (cellarStore updates).table.sourceAir = 0 := by
  rw [table_cellarStore]
  simp [cellarTable, cellarEntries, MappingTable.added, MappingTable.create]

/-- A state in the cellar, wet if there is water above. -/
def soakedUnder (above : Option UInt32) (state : UInt32) : UInt32 :=
  if above.any cellarTable.isWater then
    (cellarTable.waterlogged? state).getD state else state

theorem soaked_cellarSection
    {updates : List BlockUpdate}
    {block : UInt32}
    {above : Option UInt32}
    (now : (cellarSection updates).blockAt? 0 1 2 3 = some block)
    (overlay : (cellarSection updates).blockAt? 1 1 2 3 = above)
    (chest : block = 5001 ∨ block = 5000)
    (state : UInt32) :
    (cellarSection updates).soaked cellarTable (1, 2, 3) state =
      soakedUnder above state := by
  have solid : block ≠ cellarTable.sourceAir := by
    rw [← table_cellarStore updates, sourceAir_cellarStore]
    rcases chest with rfl | rfl <;> decide
  simp [Section.soaked, Section.isUnderWater, Section.primaryAt, now, overlay,
    solid, soakedUnder]

theorem minY_cellarStore (updates : List BlockUpdate) :
    (cellarStore updates).minY = -64 :=
  congrArg (·.world.minY)
    (sameTables_run (create .standard cellarConverter)
      (cellarRun updates)).settings_eq

theorem written_cellar
    (updates : List BlockUpdate)
    (update : BlockUpdate) :
    (cellarSection updates).edited (cellarStore updates).table.sourceAir
      update.edit =
      cellarSection (updates ++ [update]) := by
  rw [sourceAir_cellarStore]
  exact (cellarSection_concat updates update).symm

section

variable
    {updates : List BlockUpdate}
    {update : BlockUpdate}
    (here : ∀ other ∈ update :: updates, other.pos = ⟨1, 2, 3⟩ ∧
      other.layer < maxLayers)
include here

theorem meets_cellar :
    (cellarStore updates).Meets update (changedCellar updates) 4
      (cellarSection updates) :=
  meets_cellarStore fun other member =>
    ⟨congrArg BlockPos.sectionPos (here other member).1,
      (here other member).2⟩

theorem place_cellar : update.pos.inSection = (1, 2, 3) := by
  rw [(here update List.mem_cons_self).1]
  decide

/-- The cell of the chest after one more change. -/
theorem blockAt?_cellarSection
    (few : updates.length < 4095)
    (layer : Nat) :
    (cellarSection (updates ++ [update])).blockAt? layer 1 2 3 =
      if layer = update.layer then some update.source
      else if layer < update.layer then
        some (((cellarSection updates).blockAt? layer 1 2 3).getD 0)
      else (cellarSection updates).blockAt? layer 1 2 3 := by
  obtain ⟨⟨-, shallow⟩, before⟩ := List.forall_mem_cons.1 here
  have short : ∀ palette ∈ (cellarSection updates).layers,
      palette.ids.size ≤ 2 ^ 16 := by
    intro palette member
    obtain ⟨layer, found⟩ := Array.getElem?_of_mem member
    exact (hasRoom_cellarSection (fun other known => (before other known).2)
      few found).ids_le
  have written :=
    @Section.blockAt?_edited_place (cellarSection updates) update.edit 0
      (checked_cellarSection updates) shallow update.inside_edit short layer
  rw [cellarSection_concat]
  simpa only [BlockUpdate.edit, place_cellar here] using written

theorem hasRoom_cellar (few : updates.length < 4094) :
    ∀ primary, (cellarSection (updates ++ [update])).layer? 0 = some primary →
      cellarConverter.HasRoom primary := by
  refine fun primary found =>
    @hasRoom_cellarSection (updates ++ [update]) ?_ ?_ 0 primary found
  · intro other member
    rcases List.mem_append.1 member with before | last
    · exact (here other (List.mem_cons_of_mem _ before)).2
    · exact (here other (List.mem_singleton.1 last ▸ List.mem_cons_self)).2
  · rw [List.length_append, List.length_singleton]
    omega

/-- The block that a change of the chest's cell replaces. -/
theorem blockAt_cellar :
    (cellarStore updates).blockAt update.layer update.pos =
      ((cellarSection updates).blockAt? update.layer 1 2 3).getD 0 := by
  rw [(meets_cellar here).blockAt_eq, Column.replaced, section?_changedCellar,
    sourceAir_cellarStore]
  simp only [Option.bind_some, BlockUpdate.edit, place_cellar here]

/-- The primary block of the chest's cell after one more change. -/
theorem blockAt_after_cellar :
    ((cellarStore updates).after update).blockAt 0 update.pos =
      ((cellarSection (updates ++ [update])).blockAt? 0 1 2 3).getD 0 := by
  rw [(meets_cellar here).blockAt_after, written_cellar, place_cellar here,
    sourceAir_cellarStore]

/-- A change that keeps the tag keeps the record of the chest. -/
theorem entityAt?_cellar
    (kept : cellarTable.tag?
      (((cellarSection updates).blockAt? update.layer 1 2 3).getD 0) =
        cellarTable.tag? update.source) :
    ((changedCellar updates).updated (cellarStore updates).table 4
      update).entityAt? update.pos =
      some cellarRecord := by
  have tagged :
      (changedCellar updates).retags (cellarStore updates).table 4
        update = false := by
    rw [Column.retags, ← (meets_cellar here).blockAt_eq, blockAt_cellar here,
      table_cellarStore, kept, bne_self_eq_false]
  rw [Column.updated, tagged, (here update List.mem_cons_self).1]
  exact entityAt?_changedCellar updates

section

variable
    {old block : UInt32}
    {above : Option UInt32}
    (was : ((cellarSection updates).blockAt? update.layer 1 2 3).getD 0 = old)
    (kept : cellarTable.tag? old = cellarTable.tag? update.source)
    (now : (cellarSection (updates ++ [update])).blockAt? 0 1 2 3 =
      some block)
    (overlay : (cellarSection (updates ++ [update])).blockAt? 1 1 2 3 = above)
    (chest : block = 5001 ∨ block = 5000)
include was kept now overlay chest

/--
What the change of a chest in the cellar is answered with, if it keeps the
tag.
-/
theorem answered_cellar :
    ∃ entity,
      ((cellarStore updates).changeBlock update.pos update.layer
        update.source).value =
      .applied
        (if old = update.source then
          soakedUnder above (cellarTable.destinationOrAir block)
        else if update.source = 5001 ∨ update.source = 5000 then 9
        else soakedUnder above (cellarTable.destinationOrAir block))
          entity := by
  have meets := meets_cellar here
  have stored := entityAt?_cellar here (was.symm ▸ kept)
  have current :
      ((cellarStore updates).after update).blockAt 0 update.pos = block := by
    rw [blockAt_after_cellar here, now, Option.getD_some]
  obtain ⟨entity, answered⟩ := meets.exists_value_changeBlock
  refine ⟨entity, answered.trans ?_⟩
  rw [answer, meets.destinationAt_after, (blockAt_cellar here).trans was,
    current, written_cellar, converter_cellarStore,
    overrideFor?_cellarConverter stored, table_cellarStore, place_cellar here,
    soaked_cellarSection now overlay chest]
  split_ifs <;> rfl

/--
A chest of the cellar that keeps its record is sent in the state of its own.
-/
theorem told_cellar (few : updates.length < 4094) :
    (cellarStore updates).Told update
      (if old = update.source then
        soakedUnder above (cellarTable.destinationOrAir block)
      else if update.source = 5001 ∨ update.source = 5000 then 9
      else soakedUnder above (cellarTable.destinationOrAir block))
        (soakedUnder above 9) := by
  have meets := meets_cellar here
  have stored := entityAt?_cellar here (was.symm ▸ kept)
  have shows : (cellarStore updates).table.ShowsAir := by
    rw [table_cellarStore]
    exact MappingTable.showsAir_of_registered built_cellarTable
  have multiple : (cellarStore updates).minY.toInt % 16 = 0 := by
    rw [minY_cellarStore]
    decide
  have pos :=
    ((consistent_create .standard cellarConverter).run
      (cellarRun updates)).pos_eq _ _
      (columns_of_column? meets.loaded)
  have sent :=
    meets.stateAt?_convert shows multiple pos
      (checked_cellarSection updates) <| by
        rw [written_cellar, converter_cellarStore]
        exact hasRoom_cellar here few
  obtain ⟨entity, answered⟩ := answered_cellar here was kept now overlay chest
  refine ⟨entity, _, 4, _, answered, meets.holds_after, sent.trans ?_⟩
  rw [sentState, blockAt_after_cellar here, now, Option.getD_some,
    written_cellar, converter_cellarStore, Converter.stateFor_eq,
    overrideFor?_cellarConverter stored, if_pos chest, table_cellarStore,
    place_cellar here, soaked_cellarSection now overlay chest]
  rfl

end

end

theorem blockAt?_chestPut (layer : Nat) :
    (cellarSection [chestPut]).blockAt? layer 1 2 3 = if layer = 0 then
      some 5000 else none :=
  @blockAt?_cellarSection [] chestPut (by decide) (by decide) layer

theorem blockAt?_cellarFlooded (layer : Nat) :
    (cellarSection [chestPut, cellarFlooded]).blockAt? layer 1 2 3 =
      if layer = 1 then some 6 else if layer = 0 then some
          5000 else none := by
  have written :=
    @blockAt?_cellarSection [chestPut] cellarFlooded (by decide)
      (by decide) layer
  rw [List.singleton_append, blockAt?_chestPut] at written
  rw [written]
  simp only [cellarFlooded, Nat.lt_one_iff]
  split_ifs <;> rfl

/-- In the dry cellar the other kind of chest is answered with as it is sent. -/
theorem answer_eq_sent_run_cellar :
    (cellarStore [chestPut]).Told chestTurned 9 9 := by
  have here : ∀ other ∈ [chestTurned, chestPut],
      other.pos = ⟨1, 2, 3⟩ ∧ other.layer < maxLayers := by
    decide
  have cell := blockAt?_cellarSection here (by decide)
  have overlay := (cell 1).trans (blockAt?_chestPut 1)
  have was := congrArg (·.getD 0) (blockAt?_chestPut 0)
  obtain ⟨entity, answered⟩ := answered_cellar here was
    (by rw [tag?_cellarTable, tag?_cellarTable]; decide) (cell 0) overlay
    (.inl rfl)
  obtain ⟨column, slot, content, holds, -, sent⟩ :=
    answer_eq_sent_run (by decide)
      built_cellarTable (delivers_cellarRun [chestPut]) answered
  obtain ⟨rfl, rfl, rfl⟩ := holds.unique (meets_cellar here).holds_after
  refine ⟨entity, _, _, _, answered, holds,
    (sent ?room).2 (.inr ⟨rfl, ?other, ?dry⟩)⟩
  case room =>
    rw [written_cellar, ← cellarStore, converter_cellarStore]
    exact hasRoom_cellar here (by decide)
  case other =>
    exact ne_of_eq_of_ne ((blockAt_cellar here).trans was) (by decide)
  case dry =>
    intro state _
    rw [written_cellar, ← cellarStore, table_cellarStore, place_cellar here]
    exact soaked_cellarSection (cell 0) overlay (.inl rfl) state

/--
The same chest put once more, a vine over it, and another chest under water:
each is answered with one state and sent with another.
-/
theorem answered_ne_sent_cellar :
    (cellarStore [chestPut]).Told chestPut 7 9 ∧
    (cellarStore [chestPut]).Told chestCovered 7 9 ∧
    (cellarStore [chestPut, cellarFlooded]).Told chestTurned 9 10 := by
  refine ⟨?again, ?cover, ?under⟩
  case again =>
    have here : ∀ other ∈ [chestPut, chestPut],
        other.pos = ⟨1, 2, 3⟩ ∧ other.layer < maxLayers := by
      decide
    have cell := blockAt?_cellarSection here (by decide)
    have told :=
      told_cellar here (congrArg (·.getD 0) (blockAt?_chestPut 0))
        rfl (cell 0) ((cell 1).trans (blockAt?_chestPut 1)) (.inr rfl)
          (by decide)
    simpa [chestPut, soakedUnder, destinationOrAir_cellarTable] using told
  case cover =>
    have here : ∀ other ∈ [chestCovered, chestPut],
        other.pos = ⟨1, 2, 3⟩ ∧ other.layer < maxLayers := by
      decide
    have cell := blockAt?_cellarSection here (by decide)
    have below : (cellarSection [chestPut, chestCovered]).blockAt? 0 1 2
        3 = some 5000 := (cell 0).trans (by rw [blockAt?_chestPut]; rfl)
    have told := told_cellar here (congrArg (·.getD 0) (blockAt?_chestPut 1))
      (by rw [tag?_cellarTable, tag?_cellarTable]; decide) below (cell 1)
      (.inr rfl)
      (by decide)
    simpa [chestCovered, chestPut, soakedUnder, destinationOrAir_cellarTable,
      MappingTable.isWater, tag?_cellarTable] using told
  case under =>
    have here : ∀ other ∈ [chestTurned, chestPut, cellarFlooded],
        other.pos = ⟨1, 2, 3⟩ ∧ other.layer < maxLayers := by
      decide
    have cell := blockAt?_cellarSection here (by decide)
    have told :=
      told_cellar here (congrArg (·.getD 0) (blockAt?_cellarFlooded 0))
        (by rw [tag?_cellarTable, tag?_cellarTable]; decide)
        (cell 0) ((cell 1).trans (blockAt?_cellarFlooded 1)) (.inl rfl)
        (by decide)
    simpa [chestTurned, chestPut, soakedUnder, destinationOrAir_cellarTable,
      MappingTable.isWater, waterTag, tag?_cellarTable,
      waterlogged?_cellarTable] using told

end Store

end VoxelRelay
