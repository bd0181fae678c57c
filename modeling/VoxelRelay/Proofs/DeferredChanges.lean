import VoxelRelay.Proofs.BlockUpdates
import VoxelRelay.Proofs.ColumnContents
import VoxelRelay.Proofs.ColumnRecords
import VoxelRelay.Proofs.StoreRuns

/-!
# Changes before and after a section arrives

A section that is under way may be changed before its content comes: the
changes are deferred and replayed.  To the blocks this makes no difference.
To the records it does: a change that is made at once takes away the record of
a block that it replaces by one of another tag, while a change that is replayed
leaves records alone.  Both ways lead to the same records exactly when no such
change meets a record.
-/

namespace VoxelRelay

/-! ## Records that changes meet -/

namespace Column

variable {table : MappingTable} {slot : Nat} {column : Column}

/-- Taking a record out leaves fewer. -/
theorem size_entities_removeEntityAt_lt
    {pos : BlockPos}
    {entity : SourceEntity}
    (stored : column.entityAt? pos = some entity) :
    (column.removeEntityAt pos).entities.size < column.entities.size := by
  have lengths := (perm_cons_removeEntityAt stored).length_eq
  rw [List.length_cons, Array.length_toList, Array.length_toList] at lengths
  omega

theorem size_entities_updated_lt
    {update : BlockUpdate}
    {entity : SourceEntity}
    (retags : column.retags table slot update = true)
    (stored : column.entityAt? update.pos = some entity) :
    (updated table slot column update).entities.size <
      column.entities.size := by
  rw [updated, if_pos retags, removeEntityAt_modifySection]
  exact size_entities_removeEntityAt_lt stored

/--
A change that keeps the tag, or has no record in its way, only writes its
block.
-/
theorem updated_of_clear
    {update : BlockUpdate}
    (clear : column.retags table slot update = true →
      column.entityAt? update.pos = none) :
    updated table slot column update =
      column.modifySection slot (·.edited table.sourceAir update.edit) := by
  rw [updated]
  split
  · next retags =>
        rw [removeEntityAt_modifySection,
          removeEntityAt_of_absent (clear retags)]
  · rfl

theorem size_entities_updated_le
    (table : MappingTable)
    (slot : Nat)
    (column : Column)
    (update : BlockUpdate) :
    (updated table slot column update).entities.size ≤
      column.entities.size := by
  by_cases clear : column.retags table slot update = true →
    column.entityAt? update.pos = none
  · rw [updated_of_clear clear]
    exact Nat.le_refl _
  · obtain ⟨retags, met⟩ := Classical.not_imp.1 clear
    obtain ⟨entity, stored⟩ := Option.ne_none_iff_exists'.1 met
    exact (size_entities_updated_lt retags stored).le

theorem size_entities_foldl_updated_le
    (table : MappingTable)
    (slot : Nat)
    (updates : List BlockUpdate)
    (column : Column) :
    (updates.foldl (updated table slot) column).entities.size ≤
      column.entities.size := by
  induction updates generalizing column with
  | nil => exact Nat.le_refl _
  | cons update rest ih =>
      exact (ih _).trans (size_entities_updated_le table slot column update)

/--
No change of a list gives a cell that has a record a block of another tag.
-/
def Spares
    (table : MappingTable)
    (slot : Nat)
    (column : Column)
    (updates : List BlockUpdate) : Prop :=
  ∀ before update after, updates = before ++ update :: after →
    (before.foldl (updated table slot) column).retags table slot
      update = true →
      column.entityAt? update.pos = none

theorem spares_cons_iff
    {update : BlockUpdate}
    {rest : List BlockUpdate} :
    column.Spares table slot (update :: rest) ↔
      (column.retags table slot update = true →
        column.entityAt? update.pos = none) ∧
        (updated table slot column update).Spares table slot rest := by
  constructor
  · intro spares
    have clear : column.retags table slot update = true →
        column.entityAt? update.pos = none :=
      spares [] update rest rfl
    refine ⟨clear, ?_⟩
    rintro before later after rfl retags
    have absent := spares (update :: before) later after rfl retags
    rwa [updated_of_clear clear]
  · rintro ⟨clear, spares⟩ (_ | ⟨first, before⟩) later after split retags
    · obtain ⟨rfl, -⟩ := List.cons.inj split
      exact clear retags
    · obtain ⟨rfl, rfl⟩ := List.cons.inj split
      have absent := spares before later after rfl retags
      rwa [updated_of_clear clear] at absent

/-- Changes that spare the records only write their blocks. -/
theorem foldl_updated_of_spares
    {updates : List BlockUpdate}
    (spares : column.Spares table slot updates) :
    updates.foldl (updated table slot) column =
      column.modifySection slot fun content =>
        (updates.map BlockUpdate.edit).foldl
          (Section.edited table.sourceAir) content := by
  induction updates generalizing column with
  | nil => exact (column.modifySection_id slot).symm
  | cons update rest ih =>
      obtain ⟨clear, later⟩ := spares_cons_iff.1 spares
      rw [List.foldl_cons, ih later, updated_of_clear clear,
        modifySection_modifySection]
      rfl

/-- Changes leave the records alone exactly when they spare them. -/
theorem entities_foldl_updated_eq_iff
    (updates : List BlockUpdate)
    (column : Column) :
    (updates.foldl (updated table slot) column).entities = column.entities ↔
      column.Spares table slot updates := by
  constructor
  · intro same
    induction updates generalizing column with
    | nil => exact fun before _ _ split => absurd split (by simp)
    | cons update rest ih =>
        have clear : column.retags table slot update = true →
            column.entityAt? update.pos = none := by
          intro retags
          by_contra stored
          obtain ⟨entity, stored⟩ := Option.ne_none_iff_exists'.1 stored
          have fewer := size_entities_updated_lt retags stored
          have bound := size_entities_foldl_updated_le table slot rest
            (updated table slot column update)
          rw [List.foldl_cons] at same
          rw [same] at bound
          omega
        refine spares_cons_iff.2 ⟨clear, ih _ ?_⟩
        rw [List.foldl_cons] at same
        rw [same, updated_of_clear clear]
        rfl
  · intro spares
    rw [foldl_updated_of_spares spares]
    rfl

end Column

/-! ## Both ways -/

namespace Store

/-- A section of a store awaits its content, which is under way. -/
structure Expects (store : Store) (place : SectionPos) : Prop where
  awaiting : ∃ content, store.section? place = some content ∧
    content.isAwaiting = true
  asked : store.inFlight.contains place = true

/--
No change of a list gives a cell that has a record a block of another tag.
-/
def Spares (store : Store) (updates : List BlockUpdate) : Prop :=
  ∀ before update after, updates = before ++ update :: after →
    store.table.tag?
      ((store.changeBlocks before).1.blockAt update.layer update.pos) ≠
        store.table.tag? update.source →
      store.entityAt? update.pos = none

/--
Stores that differ in one column, but not in its sections, have the same
sections.
-/
theorem Revised.section?_congr
    {base store other : Store}
    {pos : ColumnPos}
    {column otherColumn : Column}
    (revised : base.Revised pos column store)
    (otherRevised : base.Revised pos otherColumn other)
    (shown : base.view.loads pos = true)
    (same : column.sections = otherColumn.sections)
    (place : SectionPos) :
    store.section? place = other.section? place := by
  rw [section?, section?, slot?_congr revised.settings_eq,
    slot?_congr otherRevised.settings_eq]
  by_cases here : place.column = pos
  · rw [here, revised.column?_self shown, otherRevised.column?_self shown]
    simp only [Column.section?, same, Option.bind_eq_bind, Option.bind_some]
  · rw [revised.column?_of_ne here, otherRevised.column?_of_ne here]

/-- The block at a place in a layer, as the column at the position has it. -/
theorem Revised.blockAt_eq
    {base store : Store}
    {place : SectionPos}
    {column : Column}
    {slot : Nat}
    {update : BlockUpdate}
    (revised : base.Revised place.column column store)
    (shown : base.view.loads place.column = true)
    (inside : base.slot? place.y = some slot)
    (here : update.pos.sectionPos = place) :
    store.blockAt update.layer update.pos =
      column.replaced base.table slot update := by
  subst here
  rw [blockAt, section?, slot?_congr revised.settings_eq, inside,
    revised.column?_self shown, revised.table_eq]
  rfl

/-- The record at a position, as the column there has it. -/
theorem Revised.entityAt?_eq
    {base store : Store}
    {place : SectionPos}
    {column : Column}
    {pos : BlockPos}
    (revised : base.Revised place.column column store)
    (shown : base.view.loads place.column = true)
    (here : pos.sectionPos = place) :
    store.entityAt? pos = column.entityAt? pos := by
  subst here
  exact congrArg (·.bind (·.entityAt? pos)) (revised.column?_self shown)

/-- A section that a store expects goes to a slot of a column. -/
structure ExpectsIn
    (store : Store)
    (place : SectionPos)
    (column : Column)
    (slot : Nat) : Prop where
  loaded : store.columns[place.column]? = some column
  shown : store.view.loads place.column = true
  inside : store.slot? place.y = some slot
  awaits : column.Awaits slot
  asked : store.inFlight.contains place = true

theorem Expects.exists_expectsIn
    {store : Store}
    {place : SectionPos}
    (expects : store.Expects place) :
    ∃ column slot, store.ExpectsIn place column slot := by
  obtain ⟨content, found, awaiting⟩ := expects.awaiting
  obtain ⟨log, pending⟩ := Option.isSome_iff_exists.1 awaiting
  simp only [section?, Option.bind_eq_bind, Option.bind_eq_some_iff] at found
  obtain ⟨slot, inside, column, loaded, found⟩ := found
  rw [column?] at loaded
  split at loaded
  · next shown =>
      exact ⟨column, slot, loaded, shown, inside,
        ⟨content, log, found, pending⟩, expects.asked⟩
  · cases loaded

theorem ExpectsIn.expects
    {store : Store}
    {place : SectionPos}
    {column : Column}
    {slot : Nat}
    (expects : store.ExpectsIn place column slot) :
    store.Expects place where
  awaiting := by
    obtain ⟨content, log, found, pending⟩ := expects.awaits
    refine ⟨content,
      (revised_self expects.loaded).section?_eq expects.shown expects.inside
        found, ?_⟩
    rw [Section.isAwaiting, pending, Option.isSome_some]
  asked := expects.asked

section

variable
    {store : Store}
    {place : SectionPos}
    {column : Column}
    {slot : Nat}
    {updates : List BlockUpdate}
    {arriving : Section}
    (expects : store.ExpectsIn place column slot)
    (here : ∀ update ∈ updates, update.pos.sectionPos = place ∧
      update.layer < maxLayers)
    (shape : arriving.checkShape = .ok ())
    (entities : List SourceEntity)
include expects shape

/-- A section that a store expects fills its slot. -/
theorem ExpectsIn.merged :
    let merged := store.mergeSection place arriving entities
    let filled :=
      column.fill slot (arriving.normalize store.table)
        store.table.sourceAir entities
    merged.value = .ok () ∧ filled.Arrived slot ∧
      store.Revised place.column filled merged.store := by
  obtain ⟨content, log, found, pending⟩ := expects.awaits
  obtain ⟨taken, filling⟩ :=
    (revised_self expects.loaded).mergeSection expects.shown
      expects.inside expects.asked shape entities
  exact ⟨taken, Column.arrived_fill found pending _ _ entities, filling⟩

include here

/--
Changes before a section arrives are deferred, and written into the slot once
it is filled.
-/
theorem ExpectsIn.deferred :
    let deferred := store.changeBlocks updates
    let late := deferred.1.mergeSection place arriving entities
    let filled :=
      column.fill slot (arriving.normalize store.table)
        store.table.sourceAir entities
    (∀ value ∈ deferred.2, value = .deferred) ∧ late.value = .ok () ∧
      store.Revised place.column (filled.modifySection slot fun content =>
        (updates.map BlockUpdate.edit).foldl
          (Section.edited store.table.sourceAir) content)
        late.store := by
  intro deferred late filled
  obtain ⟨content, log, found, pending⟩ := expects.awaits
  obtain ⟨logged, logging⟩ :=
    (revised_self expects.loaded).changeBlocks_of_awaiting
      expects.shown expects.inside found here pending
  have asked : deferred.1.inFlight.contains place = true := by
    rw [inFlight_changeBlocks]
    exact expects.asked
  obtain ⟨taken, filling⟩ :=
    logging.mergeSection expects.shown expects.inside asked shape entities
  rw [Column.foldl_logged, Column.fill_modifySection_logged found pending]
    at filling
  exact ⟨logged, taken, filling⟩

/-- Changes after a section arrived are made in the filled slot. -/
theorem ExpectsIn.applied :
    let merged := store.mergeSection place arriving entities
    let applied := merged.store.changeBlocks updates
    let filled :=
      column.fill slot (arriving.normalize store.table)
        store.table.sourceAir entities
    (∀ value ∈ applied.2, ∃ destination entity,
      value = .applied destination entity) ∧
      store.Revised place.column
        (updates.foldl (Column.updated store.table slot) filled)
        applied.1 := by
  obtain ⟨-, ⟨content, found, arrived⟩, filling⟩ :=
    expects.merged shape entities
  exact filling.changeBlocks_of_arrived expects.shown expects.inside found
    here arrived

/--
Changes spare the records of the store as they spare those of the filled
column.
-/
theorem ExpectsIn.spares_iff :
    (store.mergeSection place arriving entities).store.Spares updates ↔
      (column.fill slot (arriving.normalize store.table) store.table.sourceAir
        entities).Spares
        store.table slot updates := by
  refine forall_congr' fun before => forall_congr' fun update =>
    forall_congr' fun after =>
      forall_congr' fun split => ?_
  subst split
  have there := (here update (List.mem_append_right _ List.mem_cons_self)).1
  obtain ⟨-, -, filling⟩ := expects.merged shape entities
  obtain ⟨-, current⟩ := expects.applied
    (fun update member => here update (List.mem_append_left _ member))
    shape entities
  rw [current.blockAt_eq expects.shown expects.inside there,
    filling.entityAt?_eq expects.shown there, filling.table_eq, Column.retags,
    bne_iff_ne]

end

/-! ## A chest under way -/

/-- A store in which a section is under way. -/
def askedStore : Store :=
  (create .standard Converter.chestConverter).run
    [.createColumn ⟨0, 0⟩ 0, .want ⟨0, 0, 0⟩, .tick (.create 0 none) true]

/-- What is kept in a chest. -/
def chestRecord : SourceEntity := ⟨⟨1, 2, 3⟩, .emptyObject⟩

/-- A chest makes way for air. -/
def breaking : BlockUpdate := ⟨⟨1, 2, 3⟩, 0, 0⟩

/-- Another chest overlays it. -/
def overlaying : BlockUpdate := ⟨⟨1, 2, 3⟩, 1, 5000⟩

theorem expectsIn_askedStore :
    askedStore.ExpectsIn ⟨0, 0, 0⟩ (.create ⟨0, 0⟩ 24 0) 4 where
  loaded := rfl
  shown := by decide
  inside := by decide
  awaits :=
    ⟨.awaiting, #[], Column.section?_create (by decide) (by decide), rfl⟩
  asked := by decide

theorem checkShape_chests : (Section.filled 5000).checkShape = .ok () := by
  simp [Section.checkShape, Section.filled, maxLayers, Palette.edge,
    Palette.blocks, Palette.filled, Palette.blockEdgeBits, sectionEdge]

/-! ## The same blocks -/

/--
Changes of a section that is under way are deferred if they come before it and
made if they come after it, and lead to the same blocks either way.
-/
theorem blocks_deferred_eq_applied
    {store : Store}
    {place : SectionPos}
    (expects : store.Expects place)
    {updates : List BlockUpdate}
    (here : ∀ update ∈ updates, update.pos.sectionPos = place ∧
      update.layer < maxLayers)
    {arriving : Section}
    (shape : arriving.checkShape = .ok ())
    (entities : List SourceEntity) :
    let deferred := store.changeBlocks updates
    let late := deferred.1.mergeSection place arriving entities
    let merged := store.mergeSection place arriving entities
    let applied := merged.store.changeBlocks updates
    ((∀ value ∈ deferred.2, value = .deferred) ∧ late.value = .ok () ∧
        merged.value = .ok () ∧
        ∀ value ∈ applied.2, ∃ destination entity,
          value = .applied destination entity) ∧
      (∃ content, late.store.section? place = some content ∧
        applied.1.section? place = some content) ∧
      ∀ layer pos, late.store.blockAt layer pos =
        applied.1.blockAt layer pos := by
  intro deferred late merged applied
  obtain ⟨column, slot, expects⟩ := expects.exists_expectsIn
  obtain ⟨mergedOk, ⟨content, found, -⟩, -⟩ := expects.merged shape entities
  obtain ⟨logged, lateOk, lateRevised⟩ := expects.deferred here shape entities
  obtain ⟨made, appliedRevised⟩ := expects.applied here shape entities
  have same := lateRevised.section?_congr appliedRevised expects.shown
    (Column.sections_foldl_updated store.table slot updates _).symm
  refine ⟨⟨logged, lateOk, mergedOk, made⟩, ?_, ?_⟩
  · have there := lateRevised.section?_eq expects.shown expects.inside
      ((Column.section?_modifySection _ _ _).trans
        (congrArg (Option.map _) found))
    exact ⟨_, there, (same place).symm.trans there⟩
  · intro layer pos
    rw [blockAt, blockAt, same, lateRevised.table_eq, appliedRevised.table_eq]

theorem blocks_deferred_eq_applied_chests :
    askedStore.Expects ⟨0, 0, 0⟩ ∧
      (∀ update ∈ [overlaying, breaking],
        update.pos.sectionPos = ⟨0, 0, 0⟩ ∧ update.layer < maxLayers) ∧
      (Section.filled 5000).checkShape = .ok () ∧
      let deferred := askedStore.changeBlocks [overlaying, breaking]
      let late :=
        deferred.1.mergeSection ⟨0, 0, 0⟩ (.filled 5000) [chestRecord]
      let merged :=
        askedStore.mergeSection ⟨0, 0, 0⟩ (.filled 5000) [chestRecord]
      let applied := merged.store.changeBlocks [overlaying, breaking]
      ((∀ value ∈ deferred.2, value = .deferred) ∧ late.value = .ok () ∧
          merged.value = .ok () ∧
          ∀ value ∈ applied.2, ∃ destination entity,
            value = .applied destination entity) ∧
        (∃ content, late.store.section? ⟨0, 0, 0⟩ = some content ∧
          applied.1.section? ⟨0, 0, 0⟩ = some content) ∧
        ∀ layer pos, late.store.blockAt layer pos =
          applied.1.blockAt layer pos :=
  ⟨expectsIn_askedStore.expects, by decide, checkShape_chests,
    blocks_deferred_eq_applied expectsIn_askedStore.expects (by decide)
      checkShape_chests [chestRecord]⟩

/-! ## The same records, unless a change meets one -/

/--
Changes of a section that is under way lead to the same records before it and
after it exactly if none of them gives a cell that has a record a block of
another tag; the column is then sent in the same form.
-/
theorem records_deferred_eq_applied_iff
    {store : Store}
    {place : SectionPos}
    (expects : store.Expects place)
    {updates : List BlockUpdate}
    (here : ∀ update ∈ updates, update.pos.sectionPos = place ∧
      update.layer < maxLayers)
    {arriving : Section}
    (shape : arriving.checkShape = .ok ())
    (entities : List SourceEntity) :
    let late :=
      (store.changeBlocks updates).1.mergeSection place arriving entities
    let merged := store.mergeSection place arriving entities
    let applied := merged.store.changeBlocks updates
    ∃ column other, late.store.column? place.column = some column ∧
      applied.1.column? place.column = some other ∧
      (column.entities = other.entities ↔ merged.store.Spares updates) ∧
      (merged.store.Spares updates →
        late.store.converter.convert column late.store.minY =
          applied.1.converter.convert other applied.1.minY) := by
  intro late merged applied
  obtain ⟨column, slot, expects⟩ := expects.exists_expectsIn
  obtain ⟨-, -, lateRevised⟩ := expects.deferred here shape entities
  obtain ⟨-, appliedRevised⟩ := expects.applied here shape entities
  have spared := expects.spares_iff here shape entities
  refine ⟨_, _, lateRevised.column?_self expects.shown,
    appliedRevised.column?_self expects.shown, ?_, ?_⟩
  · rw [spared, ← Column.entities_foldl_updated_eq_iff]
    exact eq_comm
  · intro spares
    rw [Column.foldl_updated_of_spares (spared.1 spares), minY, minY,
      lateRevised.settings_eq, lateRevised.converter_eq,
      appliedRevised.settings_eq, appliedRevised.converter_eq]

theorem records_deferred_eq_applied_iff_chests :
    askedStore.Expects ⟨0, 0, 0⟩ ∧
      (∀ update ∈ [overlaying, breaking],
        update.pos.sectionPos = ⟨0, 0, 0⟩ ∧ update.layer < maxLayers) ∧
      (Section.filled 5000).checkShape = .ok () ∧
      let late :=
        (askedStore.changeBlocks [overlaying, breaking]).1.mergeSection
          ⟨0, 0, 0⟩ (.filled 5000) [chestRecord]
      let merged :=
        askedStore.mergeSection ⟨0, 0, 0⟩ (.filled 5000) [chestRecord]
      let applied := merged.store.changeBlocks [overlaying, breaking]
      ∃ column other, late.store.column? ⟨0, 0⟩ = some column ∧
        applied.1.column? ⟨0, 0⟩ = some other ∧
        (column.entities = other.entities ↔
          merged.store.Spares [overlaying, breaking]) ∧
        (merged.store.Spares [overlaying, breaking] →
          late.store.converter.convert column late.store.minY =
            applied.1.converter.convert other applied.1.minY) :=
  ⟨expectsIn_askedStore.expects, by decide, checkShape_chests,
    records_deferred_eq_applied_iff expectsIn_askedStore.expects (by decide)
      checkShape_chests [chestRecord]⟩

/-- The column in which the chests arrive. -/
def chestArrival : Column :=
  (Column.create ⟨0, 0⟩ 24 0).fill 4
    ((Section.filled 5000).normalize Converter.chestTable) 0 [chestRecord]

theorem entities_chestArrival : chestArrival.entities = #[chestRecord] := by
  rw [chestArrival, Column.fill_eq]
  simp [Column.modifySection, Column.putEntity, Column.removeEntityAt,
    Column.create]

theorem normalizeOrReplace_chestTable :
    Converter.chestTable.normalizeOrReplace 5000 = 5000 := by
  have known : Converter.chestTable.blocks.contains 5000 = true := by
    rw [Std.HashMap.contains_eq_isSome_getElem?, Converter.blocks_chestTable,
      if_pos rfl, Option.isSome_some]
  rw [MappingTable.normalizeOrReplace, MappingTable.normalize?, if_pos known,
    Option.getD_some]

theorem normalize_chests :
    (Section.filled 5000).normalize Converter.chestTable = .filled 5000 := by
  simp [Section.normalize, Section.filled, Palette.mapIds, Palette.blocks,
    Palette.filled, normalizeOrReplace_chestTable]

theorem section?_chestArrival :
    chestArrival.section? 4 = some (.filled 5000) := by
  have found : (Column.create ⟨0, 0⟩ 24 0).section? 4 = some .awaiting :=
    Column.section?_create (by decide) (by decide)
  rw [chestArrival, Column.fill_eq, Column.section?_modifySection,
    Column.section?, Column.sections_foldl_putEntity]
  refine (congrArg (Option.map _) found).trans ?_
  rw [normalize_chests]
  rfl

theorem retags_chestArrival :
    chestArrival.retags Converter.chestTable 4 breaking = true := by
  have replaced :
      chestArrival.replaced Converter.chestTable 4 breaking = 5000 := by
    rw [Column.replaced, section?_chestArrival]
    show (Palette.blocks 5000).idAt breaking.edit.x breaking.edit.y
      breaking.edit.z = 5000
    exact Palette.idAtCell_filled _ _ _
  rw [Column.retags, replaced, MappingTable.tag?, MappingTable.tag?,
    Converter.blocks_chestTable, Converter.blocks_chestTable]
  decide

/-- A chest that is broken before it arrives leaves its record behind. -/
theorem exists_record_kept_by_deferral :
    askedStore.Expects ⟨0, 0, 0⟩ ∧
      (∀ update ∈ [breaking], update.pos.sectionPos = ⟨0, 0, 0⟩ ∧
        update.layer = 0) ∧
      chestRecord.position.sectionPos = ⟨0, 0, 0⟩ ∧
      (Section.filled 5000).checkShape = .ok () ∧
      let late :=
        (askedStore.changeBlocks [breaking]).1.mergeSection ⟨0, 0, 0⟩
          (.filled 5000) [chestRecord]
      let applied := (askedStore.mergeSection ⟨0, 0, 0⟩ (.filled 5000)
        [chestRecord]).store.changeBlocks [breaking]
      late.store.entityAt? ⟨1, 2, 3⟩ = some chestRecord ∧
        applied.1.entityAt? ⟨1, 2, 3⟩ = none := by
  have here : ∀ update ∈ [breaking],
      update.pos.sectionPos = ⟨0, 0, 0⟩ ∧ update.layer < maxLayers := by
        decide
  have expects := expectsIn_askedStore
  obtain ⟨-, -, lateRevised⟩ :=
    expects.deferred here checkShape_chests [chestRecord]
  obtain ⟨-, appliedRevised⟩ :=
    expects.applied here checkShape_chests [chestRecord]
  refine ⟨expects.expects, by decide, by decide, checkShape_chests, ?_, ?_⟩
  · rw [lateRevised.entityAt?_eq expects.shown rfl]
    show chestArrival.entities.find? _ = _
    rw [entities_chestArrival]
    rfl
  · rw [appliedRevised.entityAt?_eq expects.shown rfl]
    show (chestArrival.updated Converter.chestTable 4 breaking).entityAt? _ =
      none
    rw [Column.updated, if_pos retags_chestArrival,
      Column.removeEntityAt_modifySection]
    show (chestArrival.removeEntityAt _).entities.find? _ = none
    rw [Column.removeEntityAt, entities_chestArrival]
    simp [chestRecord, breaking]

end Store

end VoxelRelay
