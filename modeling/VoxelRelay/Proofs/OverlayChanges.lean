import VoxelRelay.Proofs.FilledColumns
import VoxelRelay.Proofs.ListedEntities
import VoxelRelay.Proofs.OneCellChanges
import VoxelRelay.Proofs.RefusedSections

/-!
# Changes of the overlay and block entities

A column is converted by the tags of its primary blocks, and a change of an
overlay leaves those as they are.  Still it takes the record at its position
away if it gives the overlay another tag, as a change of the primary layer does
when it gives the block another tag.  So a chest loses what it holds when it
comes under water.  Without a record in the way a change of the overlay leaves
the block entities alone.
-/

namespace VoxelRelay

open Palette

/-! ## Lists that differ at one place -/

/--
Two lists of what is found at places differ exactly if what is found at the
one place does.
-/
theorem filterMap_eq_iff_of_eq_off
    {α β : Type}
    {places : List α}
    (distinct : places.Nodup)
    {place : α}
    (member : place ∈ places)
    {find other : α → Option β}
    (off : ∀ elsewhere ∈ places, elsewhere ≠ place →
      find elsewhere = other elsewhere) :
    places.filterMap find = places.filterMap other ↔
      find place = other place := by
  obtain ⟨before, later, rfl⟩ := List.append_of_mem member
  obtain ⟨-, distinctLater, apart⟩ := List.nodup_append.1 distinct
  obtain ⟨fresh, -⟩ := List.nodup_cons.1 distinctLater
  have earlier : before.filterMap find = before.filterMap other :=
    List.filterMap_congr fun elsewhere known =>
      off elsewhere (List.mem_append_left _ known)
        (apart elsewhere known place List.mem_cons_self)
  have rest : later.filterMap find = later.filterMap other :=
    List.filterMap_congr fun elsewhere known =>
      off elsewhere (List.mem_append_right _ (List.mem_cons_of_mem _ known))
        (ne_of_mem_of_not_mem known fresh)
  rw [List.filterMap_append, List.filterMap_append, earlier,
    List.append_cancel_left_eq, List.filterMap_cons, List.filterMap_cons,
    rest]
  cases find place <;> cases other place <;> simp

/-! ## Sections -/

namespace Section

variable {content : Section} {edit : Edit} {sourceAir : UInt32}

/--
An edit of the overlay leaves the primary layer as it is, or adds one of air.
-/
theorem layer?_zero_edited (overlay : edit.layer = 1) :
    (content.edited sourceAir edit).layer? 0 =
      some ((content.layer? 0).getD (.blocks sourceAir)) := by
  have shallow : edit.layer < maxLayers := overlay ▸ Nat.one_lt_two
  rw [layer?, layers_edited shallow, Array.getElem?_modify, if_neg (by omega),
    ← layer?, layer?_padLayers]
  by_cases there : 0 < content.layers.size
  · rw [if_pos there, layer?, Array.getElem?_eq_getElem there]
    rfl
  · rw [if_neg there, if_pos (by omega), layer?,
      Array.getElem?_eq_none (Nat.not_lt.1 there)]
    rfl

end Section

namespace Converter

variable {converter : Converter} {content other : Section} {column : Column}

/-- What a section lists depends on its primary layer alone. -/
theorem entities_convertSection_congr
    (same : content.layer? 0 = other.layer? 0)
    (column : Column)
    (minY : Int32)
    (slot : Nat) :
    (converter.convertSection column minY slot content).2 =
      (converter.convertSection column minY slot other).2 := by
  cases found : content.layer? 0 with
  | none =>
      rw [convertSection_of_empty found,
        convertSection_of_empty (same ▸ found)]
  | some primary =>
      rw [convertSection_of_primary found,
        convertSection_of_primary (same ▸ found), entities_assembled,
        entities_assembled]

theorem Lists.congr
    (lists : converter.Lists content)
    (same : content.layer? 0 = other.layer? 0) :
    converter.Lists other := by
  intro column minY slot primary found
  rw [← entities_convertSection_congr same]
  exact lists column minY slot primary (same.trans found)

section

variable (untagged : converter.table.tag? converter.table.sourceAir = none)
include untagged

/-- Air has no block entity. -/
theorem entityFor?_sourceAir
    (column : Column)
    (pos : BlockPos) :
    converter.entityFor? column pos converter.table.sourceAir = none := by
  have owner : converter.ownerTag? converter.table.sourceAir = none := by
    rw [ownerTag?, untagged]
    rfl
  rw [entityFor?, owner]
  rfl

theorem listed?_sourceAir
    (column : Column)
    (pos : BlockPos) :
    converter.listed? column pos converter.table.sourceAir = none := by
  rw [listed?, entityFor?_sourceAir untagged]
  rfl

theorem entity?_planFor_air
    (column : Column)
    (minY : Int32)
    (slot : Nat)
    (place : Place) :
    (converter.planFor column minY slot
      (.blocks converter.table.sourceAir)).entity? place =
      none := by
  have read : (Palette.blocks converter.table.sourceAir).read place =
      converter.table.sourceAir :=
    read_filled _ _ _
  show converter.entityFor? column _
    ((Palette.blocks converter.table.sourceAir).read place) = none
  rw [read, entityFor?_sourceAir untagged]

theorem lists_of_air
    (checked : content.Checked)
    (found : content.layer? 0 = some (.blocks converter.table.sourceAir)) :
    converter.Lists content := by
  refine lists_of_plain checked fun column minY slot primary known place => ?_
  obtain rfl := Option.some.inj (found.symm.trans known)
  rw [entity?_planFor_air untagged]
  rfl

/-- An edit of the overlay does not change what its section lists. -/
theorem entities_convertSection_edited
    {edit : Edit}
    (overlay : edit.layer = 1)
    (inside : edit.Inside)
    (checked : content.Checked)
    (column : Column)
    (minY : Int32)
    (slot : Nat) :
    (converter.convertSection column minY slot
        (content.edited converter.table.sourceAir edit)).2 =
      (converter.convertSection column minY slot content).2 := by
  have edited :=
    @Section.layer?_zero_edited content edit converter.table.sourceAir overlay
  cases found : content.layer? 0 with
  | some primary =>
      rw [found] at edited
      exact entities_convertSection_congr (edited.trans found.symm)
        column minY slot
  | none =>
      -- The edit adds a primary layer, but one of air, which lists nothing.
      rw [found] at edited
      have airy :=
        lists_of_air untagged (checked.edited inside _) edited column minY
          slot _ edited
      rw [convertSection_of_empty found]
      refine Array.toList_inj.1
        (airy.trans (List.filterMap_eq_nil_iff.2 fun place _ => ?_))
      rw [Option.getD_none, entity?_planFor_air untagged]
      rfl

theorem Lists.edited
    {edit : Edit}
    (overlay : edit.layer = 1)
    (inside : edit.Inside)
    (checked : content.Checked)
    (lists : converter.Lists content) :
    converter.Lists (content.edited converter.table.sourceAir edit) := by
  have edited :=
    @Section.layer?_zero_edited content edit converter.table.sourceAir overlay
  cases found : content.layer? 0 with
  | some primary =>
      rw [found] at edited
      exact lists.congr (found.trans edited.symm)
  | none =>
      rw [found] at edited
      exact lists_of_air untagged (checked.edited inside _) edited

end

/-- Columns at one position with the same records list the same. -/
theorem convertSection_congr
    {after : Column}
    (pos : after.pos = column.pos)
    (records : ∀ pos, after.entityAt? pos = column.entityAt? pos)
    (minY : Int32)
    (slot : Nat)
    (content : Section) :
    converter.convertSection after minY slot content =
      converter.convertSection column minY slot content := by
  have visits (primary : Palette) (baseY : Int32) :
      (converter.plan after primary baseY).visit =
        (converter.plan column primary baseY).visit := by
    funext visit place
    simp only [VisitPlan.visit, VisitPlan.addEntity, VisitPlan.position, plan,
      pos, records]
  have cells (primary : Palette) (baseY : Int32) :
      converter.visitCells after primary baseY =
        converter.visitCells column primary baseY := by
    rw [visitCells_eq, visitCells_eq, visits]
  simp only [convertSection, cells]

end Converter

/-! ## Columns -/

namespace Column

variable {column : Column} {slot : Nat} {update : BlockUpdate}

/--
A change that gives its layer a block of another tag leaves no record at its
position.
-/
theorem entityAt?_updated_of_retags
    {table : MappingTable}
    (distinct : column.Distinct)
    (retags : column.retags table slot update = true) :
    (column.updated table slot update).entityAt? update.pos = none := by
  rw [updated, if_pos retags, removeEntityAt_modifySection]
  exact (entityAt?_removeEntityAt distinct update.pos update.pos).trans
    (if_pos rfl)

/--
A change leaves the records alone if it keeps the tag of its layer or finds no
record.
-/
theorem entities_updated_eq_iff (table : MappingTable) :
    (column.updated table slot update).entities = column.entities ↔
      (column.retags table slot update = true →
        column.entityAt? update.pos = none) := by
  have alone := @entities_foldl_updated_eq_iff table slot [update] column
  have rest : (column.updated table slot update).Spares table slot [] :=
    fun _ _ _ split => absurd split (by simp)
  exact alone.trans (spares_cons_iff.trans (and_iff_left rest))

section

variable
    {converter : Converter}
    (overlay : update.layer = 1)
    (untagged : converter.table.tag? converter.table.sourceAir = none)
include overlay untagged

/--
What is listed for the primary block of a cell is not changed by a change of
the overlay.
-/
theorem bind_primaryAt?_updated
    (address : Nat × Place)
    (other : Column)
    (pos : BlockPos) :
    ((column.updated converter.table slot update).primaryAt? address).bind
        (converter.listed? other pos) =
      (column.primaryAt? address).bind (converter.listed? other pos) := by
  have airy := Converter.listed?_sourceAir untagged other pos
  rw [primaryAt?, primaryAt?, section?, sections_updated,
    Array.getElem?_modify, section?]
  split
  · cases column.sections[address.1]? with
    | none => rfl
    | some content =>
        rw [Option.map_some, Option.bind_some, Option.bind_some,
          Section.blockAt?, Section.layer?_zero_edited overlay,
          Section.blockAt?]
        cases content.layer? 0 with
        | some primary => rfl
        | none =>
            have read :
                (Palette.blocks converter.table.sourceAir).read address.2 =
                converter.table.sourceAir :=
              read_filled _ _ _
            exact (congrArg (converter.listed? other pos) read).trans airy
  · rfl

/--
A change of the overlay that leaves the records alone leaves the list alone.
-/
theorem entities_convert_updated
    (checked : ∀ content ∈ column.sections, content.Checked)
    (clear : column.retags converter.table slot update = true →
      column.entityAt? update.pos = none)
    (minY : Int32) :
    (converter.convert (column.updated converter.table slot update)
      minY).entities =
      (converter.convert column minY).entities := by
  rw [updated_of_clear clear, Converter.entities_convert,
    Converter.entities_convert, Array.flatMap_def, Array.flatMap_def]
  congr 1
  apply Array.ext_getElem?
  intro index
  have kept (content : Section) :
      (converter.convertSection (column.modifySection slot
          (·.edited converter.table.sourceAir update.edit)) minY index
          content).2 =
        (converter.convertSection column minY index content).2 :=
    congrArg (·.2)
      (Converter.convertSection_congr rfl (fun _ => rfl) minY index content)
  simp only [Array.getElem?_map, Array.getElem?_mapIdx, Option.map_map,
    Function.comp_def, kept]
  rw [modifySection, Array.getElem?_modify]
  cases found : column.sections[index]? with
  | none => split <;> rfl
  | some content =>
      have member := Array.mem_of_getElem? found
      split
      · exact congrArg some
          (Converter.entities_convertSection_edited untagged overlay
          update.inside_edit (checked content member) column minY index)
      · rfl

/--
A change of the overlay changes the list exactly if it changes what its own
cell lists.
-/
theorem entities_convert_updated_eq_iff
    (distinct : column.Distinct)
    (checked : ∀ content ∈ column.sections, content.Checked)
    (lists : ∀ content ∈ column.sections, converter.Lists content)
    (few : column.sections.size * 16 ≤ 2 ^ 32)
    (below : slot < column.sections.size)
    {minY : Int32}
    (home : column.cellPos minY (slot, update.pos.inSection) = update.pos) :
    (converter.convert (column.updated converter.table slot update)
      minY).entities =
        (converter.convert column minY).entities ↔
      (column.primaryAt? (slot, update.pos.inSection)).bind
          (converter.listed? (column.updated converter.table slot update)
            update.pos) =
        (column.primaryAt? (slot, update.pos.inSection)).bind
          (converter.listed? column update.pos) := by
  let after := column.updated converter.table slot update
  have agrees : AgreesBut update.pos column after :=
    agreesBut_updated distinct converter.table slot update
  have sections : after.sections =
      column.sections.modify slot
        (·.edited converter.table.sourceAir update.edit) :=
    sections_updated converter.table slot column update
  have addresses : after.addresses = column.addresses := by
    rw [Column.addresses, sections, Array.size_modify, ← Column.addresses]
  have listsAfter : ∀ content ∈ after.sections, converter.Lists content := by
    rw [sections]
    refine forall_mem_modify lists _ fun content found => ?_
    have member := Array.mem_of_getElem? found
    exact (lists content member).edited untagged overlay update.inside_edit
      (checked content member)
  have member : (slot, update.pos.inSection) ∈ column.addresses :=
    mem_addresses_iff.2 ⟨below, mem_placesOf_iff.2 update.inside_edit⟩
  have found (address : Nat × Place) :
      converter.listedAt? after minY address =
      (column.primaryAt? address).bind
        (converter.listed? after (column.cellPos minY address)) := by
    have pos : after.cellPos minY address = column.cellPos minY address := by
      rw [cellPos, cellPos, agrees.pos_eq]
    rw [Converter.listedAt?, pos]
    exact bind_primaryAt?_updated overlay untagged address after _
  have off : ∀ address ∈ column.addresses,
    address ≠ (slot, update.pos.inSection) →
      converter.listedAt? after minY address =
        converter.listedAt? column minY address := by
    intro address known apart
    -- No other cell has the position of the change, so its record is found as
    -- before.
    have elsewhere : column.cellPos minY address ≠ update.pos :=
      fun same => apart (cellPos_inj few known member (same.trans home.symm))
    rw [found, Converter.listedAt?]
    refine Option.bind_congr fun source _ => ?_
    rw [Converter.listed?, Converter.entityFor?, agrees.found_eq _ elsewhere,
      ← Converter.entityFor?, ← Converter.listed?]
  rw [← Array.toList_inj, Converter.toList_entities_convert listsAfter,
    Converter.toList_entities_convert lists, addresses,
    filterMap_eq_iff_of_eq_off column.nodup_addresses member off, found,
    Converter.listedAt?, home]

end

end Column

/-! ## Stores -/

namespace Store

/-- A change meets no record, or gives its layer a block of the same tag. -/
def Harmless (store : Store) (update : BlockUpdate) : Prop :=
  store.table.tag? (store.blockAt update.layer update.pos) =
    store.table.tag? update.source ∨
    store.entityAt? update.pos = none

/-- The block entity that a column lists for the primary block at a position. -/
def listedIn?
    (store : Store)
    (pos : BlockPos)
    (column : Column) : Option TargetEntity :=
  store.converter.listed? column pos (store.blockAt 0 pos)

namespace Meets

variable
    {store : Store}
    {update : BlockUpdate}
    {column : Column}
    {slot : Nat}
    {content : Section}
    (meets : store.Meets update column slot content)
include meets

theorem harmless_iff :
    store.Harmless update ↔
      (column.retags store.table slot update = true →
        column.entityAt? update.pos = none) := by
  have found : store.entityAt? update.pos = column.entityAt? update.pos :=
    congrArg (·.bind (·.entityAt? update.pos)) meets.loaded
  rw [Harmless, found, meets.blockAt_eq, Column.retags, bne_iff_ne,
    ← or_iff_not_imp_left]

/--
The cell of a change has the position of the change in a world between two
sections.
-/
theorem cellPos_eq
    (multiple : store.minY.toInt % 16 = 0)
    (pos : column.pos = update.pos.column) :
    column.cellPos store.minY (slot, update.pos.inSection) = update.pos := by
  rw [← Converter.position_planFor store.converter column store.minY
    slot default]
  exact position_inSection multiple meets.inside pos rfl

theorem bind_primaryAt?
    (untagged : store.table.tag? store.table.sourceAir = none)
    (other : Column) :
    (column.primaryAt? (slot, update.pos.inSection)).bind
        (store.converter.listed? other update.pos) =
      store.listedIn? update.pos other := by
  have airy := Converter.listed?_sourceAir untagged other update.pos
  have block : column.primaryAt? (slot, update.pos.inSection) =
      content.blockAt? 0 update.pos.inSection.1 update.pos.inSection.2.1
        update.pos.inSection.2.2 := by
    rw [Column.primaryAt?, meets.found]
    rfl
  rw [listedIn?, blockAt_eq_readOr, meets.section?_eq, Option.map_some,
    Option.getD_some, Section.readOr, block]
  cases content.blockAt? 0 update.pos.inSection.1 update.pos.inSection.2.1
      update.pos.inSection.2.2 with
  | none => exact airy.symm
  | some source => rfl

end Meets

section

variable
    {settings : Settings}
    {converter : Converter}
    {operations : List StoreOperation}

/-- The block of air of a store has no tag. -/
theorem tag?_sourceAir_run
    {sourceAir replacement : UInt32}
    {entries : List MappingTable.Registration}
    (built : entries.foldlM MappingTable.register
      (.create sourceAir replacement) = .ok converter.table) :
    let store := (create settings converter).run operations
    store.table.tag? store.table.sourceAir = none := by
  intro store
  have same : store.converter = converter :=
    (sameTables_run (create settings converter) operations).converter_eq
  rw [table, same]
  exact (MappingTable.showsAir_of_registered built).tag?_sourceAir

variable
    {update : BlockUpdate}
    {column : Column}
    {slot : Nat}
    {content : Section}
    (delivers : ∀ operation ∈ operations, operation.DeliversWellFormed)
    (meets : ((create settings converter).run operations).Meets update column
      slot content)
include delivers meets

theorem Meets.checked_run : ∀ content ∈ column.sections, content.Checked := by
  intro content member
  obtain ⟨slot, found⟩ := Array.getElem?_of_mem member
  exact Store.checked_run delivers (columns_of_column? meets.loaded) found

/--
A change of the overlay leaves the list of a column alone exactly if the primary
block of its cell lists the same as before.
-/
theorem Meets.entities_convert_updated_eq_iff
    (untagged : ((create settings converter).run operations).table.tag?
      ((create settings converter).run operations).table.sourceAir = none)
    (overlay : update.layer = 1) :
    let store := (create settings converter).run operations
    let after := column.updated store.table slot update
    store.minY.toInt % 16 = 0 →
      (∀ content ∈ column.sections, ∀ primary,
        content.layer? 0 = some primary →
        store.converter.HasRoom primary) →
      ((store.converter.convert after store.minY).entities =
          (store.converter.convert column store.minY).entities ↔
        store.listedIn? update.pos after =
          store.listedIn? update.pos column) := by
  intro store after multiple room
  have known := columns_of_column? meets.loaded
  have checked := meets.checked_run delivers
  have distinct := (keeps_run settings converter operations known).distinct
  have pos :=
    ((consistent_create settings converter).run operations).pos_eq _ _ known
  have lists : ∀ content ∈ column.sections, store.converter.Lists content :=
    fun content member =>
      Converter.Fits.lists ⟨checked content member, room content member⟩
  have few : column.sections.size * 16 ≤ 2 ^ 32 := by
    have count := store.settings.world.sectionCount_le
    rw [high_run settings converter operations _ column known]
    exact Nat.mul_le_mul_right 16 count
  have below : slot < column.sections.size :=
    (Array.getElem?_eq_some_iff.1 meets.found).1
  have changed :=
    Column.entities_convert_updated_eq_iff overlay untagged distinct
      checked lists few below (meets.cellPos_eq multiple pos)
  rwa [meets.bind_primaryAt? untagged, meets.bind_primaryAt? untagged]
    at changed

end

/--
In whatever state a store is reached, a change of the overlay in a section whose
content is there leaves the records of the column alone exactly if it keeps the
tag of the overlay or finds no record, and then it leaves the list of block
entities alone, too.  It never touches a record of another position.  Where
tables have room for the states of records, the list is left alone exactly if
the primary block of the cell lists the same with the record and without it.
-/
theorem overlay_change_run
    {settings : Settings}
    {converter : Converter}
    {sourceAir replacement : UInt32}
    {entries : List MappingTable.Registration}
    (built : entries.foldlM MappingTable.register
      (.create sourceAir replacement) = .ok converter.table)
    {operations : List StoreOperation}
    (delivers : ∀ operation ∈ operations, operation.DeliversWellFormed)
    {update : BlockUpdate}
    (overlay : update.layer = 1)
    {column : Column}
    {slot : Nat}
    {content : Section}
    (meets : ((create settings converter).run operations).Meets update column
      slot content) :
    let store := (create settings converter).run operations
    ∃ after, (store.after update).column? update.pos.column = some after ∧
      (after.entities = column.entities ↔ store.Harmless update) ∧
      (∀ record : SourceEntity, record.position ≠ update.pos →
        (record ∈ after.entities ↔ record ∈ column.entities)) ∧
      (store.Harmless update →
        (store.converter.convert after store.minY).entities =
          (store.converter.convert column store.minY).entities) ∧
      (store.minY.toInt % 16 = 0 →
        (∀ content ∈ column.sections, ∀ primary,
          content.layer? 0 = some primary →
          store.converter.HasRoom primary) →
        ((store.converter.convert after store.minY).entities =
            (store.converter.convert column store.minY).entities ↔
          store.listedIn? update.pos after =
            store.listedIn? update.pos column)) := by
  intro store
  have untagged : store.table.tag? store.table.sourceAir = none :=
    tag?_sourceAir_run built
  have distinct := (keeps_run settings converter operations
    (columns_of_column? meets.loaded)).distinct
  refine ⟨_, meets.holds_after.loaded,
    (Column.entities_updated_eq_iff store.table).trans
      meets.harmless_iff.symm,
    (Column.agreesBut_updated distinct store.table slot update).kept_iff, ?_,
    meets.entities_convert_updated_eq_iff delivers untagged overlay⟩
  intro harmless
  exact Column.entities_convert_updated overlay untagged
    (meets.checked_run delivers) (meets.harmless_iff.1 harmless) store.minY

/-- There is nothing over the chest of the cellar. -/
theorem blockAt_overlay_cellar
    {update : BlockUpdate}
    (here : ∀ other ∈ [update, chestPut], other.pos = ⟨1, 2, 3⟩ ∧
      other.layer < maxLayers)
    (overlay : update.layer = 1) :
    (cellarStore [chestPut]).blockAt update.layer update.pos = 0 := by
  rw [blockAt_cellar here, overlay, blockAt?_chestPut]
  rfl

/-- A vine over the chest of the cellar leaves what the chest holds in place. -/
theorem overlay_change_run_vine :
    (∀ operation ∈ cellarRun [chestPut], operation.DeliversWellFormed) ∧
      (cellarStore [chestPut]).Meets chestCovered (changedCellar [chestPut]) 4
        (cellarSection [chestPut]) ∧
      ∃ after, ((cellarStore [chestPut]).after chestCovered).column? ⟨0, 0⟩ =
        some after ∧
        after.entities = (changedCellar [chestPut]).entities ∧
        (cellarConverter.convert after (-64)).entities =
          (cellarConverter.convert (changedCellar [chestPut])
            (-64)).entities := by
  have here : ∀ other ∈ [chestCovered, chestPut],
      other.pos = ⟨1, 2, 3⟩ ∧ other.layer < maxLayers := by
    decide
  have meets := meets_cellar here
  obtain ⟨after, current, records, -, listed, -⟩ :=
    overlay_change_run built_cellarTable
      (delivers_cellarRun [chestPut]) rfl meets
  have harmless : (cellarStore [chestPut]).Harmless chestCovered := by
    left
    rw [blockAt_overlay_cellar here rfl, table_cellarStore, tag?_cellarTable,
      tag?_cellarTable]
    decide
  refine ⟨delivers_cellarRun [chestPut], meets, after, current,
    records.2 harmless, ?_⟩
  have same := listed harmless
  rwa [← cellarStore, converter_cellarStore, minY_cellarStore] at same

theorem fits_changedCellar :
    ∀ content ∈ (changedCellar [chestPut]).sections,
      cellarConverter.Fits content := by
  intro content member
  obtain ⟨slot, found⟩ := Array.getElem?_of_mem member
  by_cases lowest : slot = 4
  · subst lowest
    obtain rfl :=
      Option.some.inj ((section?_changedCellar [chestPut]).symm.trans found)
    exact ⟨checked_cellarSection _, fun primary layer =>
      hasRoom_cellarSection (by decide) (by decide) layer⟩
  · have kept : (changedCellar [chestPut]).sections =
        cellarColumn.sections.modify 4
          (·.edited cellarTable.sourceAir chestPut.edit) :=
      (Column.sections_removeEntityAt _ _).trans
        (Column.sections_updated cellarTable 4 _ chestPut)
    have blank : content = .empty := by
      rw [kept, Array.getElem?_modify, if_neg (Ne.symm lowest)] at found
      obtain ⟨index, below, made⟩ :=
        Array.mem_map.1 (Array.mem_of_getElem? found)
      exact made.symm.trans (if_pos (Array.mem_range.1 below))
    rw [blank]
    exact ⟨Section.checked_blank none, fun primary layer =>
      absurd (Array.mem_of_getElem? layer) (Array.not_mem_empty primary)⟩

/--
A chest with a record is listed with a state of its own, which no empty block
entity has.
-/
theorem listed?_cellarConverter_ne
    {column after : Column}
    {pos : BlockPos}
    (stored : column.entityAt? pos = some cellarRecord)
    (gone : after.entityAt? pos = none) :
    cellarConverter.listed? after pos 5000 ≠
      cellarConverter.listed? column pos 5000 := by
  intro same
  rw [Converter.listed?_eq_entityFor? fun record found =>
    by simp [gone] at found,
      Converter.listed?_eq_entityFor? fun record found =>
        Option.some.inj (stored.symm.trans found) ▸ rfl] at same
  have override : cellarConverter.overrideFor? after pos 5000 =
      cellarConverter.overrideFor? column pos 5000 :=
    congrArg (·.bind (·.stateOverride)) same
  rw [Converter.overrideFor?_of_absent gone,
    overrideFor?_cellarConverter stored] at override
  cases override

/-- The chest of the cellar loses what it holds when the cellar is flooded. -/
theorem exists_record_drowned :
    ∃ column after, (cellarStore [chestPut]).column? ⟨0, 0⟩ = some column ∧
      ((cellarStore [chestPut]).after cellarFlooded).column? ⟨0, 0⟩ =
        some after ∧
      column.entityAt? ⟨1, 2, 3⟩ = some cellarRecord ∧
      after.entityAt? ⟨1, 2, 3⟩ = none ∧
      (cellarConverter.convert after (-64)).entities ≠
        (cellarConverter.convert column (-64)).entities := by
  have here : ∀ other ∈ [cellarFlooded, chestPut],
      other.pos = ⟨1, 2, 3⟩ ∧ other.layer < maxLayers := by
    decide
  have meets := meets_cellar here
  have current := meets.holds_after.loaded
  have distinct := (keeps_run .standard cellarConverter (cellarRun [chestPut])
    (columns_of_column? meets.loaded)).distinct
  have stored := entityAt?_changedCellar [chestPut]
  have retags :
      (changedCellar [chestPut]).retags (cellarStore [chestPut]).table 4
        cellarFlooded =
      true := by
    rw [Column.retags, ← meets.blockAt_eq, blockAt_overlay_cellar here rfl,
      table_cellarStore, tag?_cellarTable, tag?_cellarTable]
    decide
  have gone := Column.entityAt?_updated_of_retags distinct retags
  have chest :
      (cellarStore [chestPut]).blockAt 0 cellarFlooded.pos = 5000 := by
    rw [blockAt_eq_readOr, meets.section?_eq, Option.map_some,
      Option.getD_some, place_cellar here, Section.readOr, blockAt?_chestPut,
      if_pos rfl, Option.getD_some]
  have multiple : (cellarStore [chestPut]).minY.toInt % 16 = 0 := by
    rw [minY_cellarStore]
    decide
  have room : ∀ content ∈ (changedCellar [chestPut]).sections, ∀ primary,
      content.layer? 0 = some primary →
        (cellarStore [chestPut]).converter.HasRoom primary := by
    rw [converter_cellarStore]
    exact fun content member => (fits_changedCellar content member).room
  have changed :=
    meets.entities_convert_updated_eq_iff (delivers_cellarRun [chestPut])
      (tag?_sourceAir_run built_cellarTable) rfl multiple room
  rw [← cellarStore, converter_cellarStore, minY_cellarStore, listedIn?,
    listedIn?, converter_cellarStore, chest] at changed
  exact ⟨_, _, meets.loaded, current, stored, gone,
    fun same => listed?_cellarConverter_ne stored gone (changed.1 same)⟩

end Store

end VoxelRelay
