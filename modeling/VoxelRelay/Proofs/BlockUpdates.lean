import VoxelRelay.Proofs.StoreFrames
import VoxelRelay.Proofs.TickSteps

/-!
# What block changes do to a column

A change of a block is logged while its section awaits content, and written
into the section once the content is there.  Either way it concerns one column
only: a store is followed through a list of changes by saying what becomes of
this column, and that everything else about columns stays as it was.
-/

namespace VoxelRelay

/-- A change of one block, as the source tells it. -/
structure BlockUpdate where
  pos : BlockPos
  layer : Nat
  source : UInt32

/-- A change as it is logged in its section. -/
def BlockUpdate.edit (update : BlockUpdate) : Edit where
  x := update.pos.inSection.1
  y := update.pos.inSection.2.1
  z := update.pos.inSection.2.2
  layer := update.layer
  id := update.source

/-! ## Sections -/

/--
What a change does to other elements than the one in its place does not
matter.
-/
theorem modify_congr
    {α : Type}
    {elements : Array α}
    {place : Nat}
    {element : α}
    (found : elements[place]? = some element)
    {change other : α → α}
    (same : change element = other element) :
    elements.modify place change = elements.modify place other := by
  apply Array.ext_getElem?
  intro index
  simp only [Array.getElem?_modify]
  split
  · next here =>
      have known : elements[index]? = some element := here ▸ found
      rw [known, Option.map_some, Option.map_some, same]
  · rfl

namespace Section

/--
A section after an edit; an edit in a layer that cannot exist is passed over.
-/
def edited (sourceAir : UInt32) (content : Section) (edit : Edit) : Section :=
  (content.setBlock edit.layer edit.x edit.y edit.z sourceAir edit.id).getD
    content

/-- A section with one more edit in its log, if it keeps one. -/
def logged (content : Section) (edit : Edit) : Section :=
  { content with pending := content.pending.map (·.push edit) }

theorem setBlock_eq_edited
    {edit : Edit}
    (layer : edit.layer < maxLayers)
    (content : Section)
    (sourceAir : UInt32) :
    content.setBlock edit.layer edit.x edit.y edit.z sourceAir edit.id =
      some (content.edited sourceAir edit) := by
  simp [edited, setBlock, ensureLayer, Nat.not_le.2 layer]

theorem bufferEdit_of_pending
    {edit : Edit}
    (layer : edit.layer < maxLayers)
    {content : Section}
    {log : Array Edit}
    (pending : content.pending = some log) :
    content.bufferEdit edit = some (content.logged edit) := by
  rw [bufferEdit, if_neg (Nat.not_le.2 layer), logged, pending]
  rfl

theorem bufferEdit_of_arrived
    {content : Section}
    (arrived : content.pending = none)
    (edit : Edit) :
    content.bufferEdit edit = none := by
  rw [bufferEdit, arrived]
  split <;> rfl

theorem pending_edited
    (sourceAir : UInt32)
    (content : Section)
    (edit : Edit) :
    (content.edited sourceAir edit).pending = content.pending := by
  by_cases layer : edit.layer < maxLayers
  · simp [edited, setBlock, ensureLayer, Nat.not_le.2 layer, modifyLayer,
      padLayers]
  · simp [edited, setBlock, ensureLayer, Nat.not_lt.1 layer]

theorem pending_foldl_logged
    {content : Section}
    {log : Array Edit}
    (pending : content.pending = some log)
    (edits : List Edit) :
    edits.foldl logged content =
      { content with pending := some (log ++ edits.toArray) } := by
  induction edits generalizing content log with
  | nil =>
      rw [List.foldl_nil, List.append_toArray, List.append_nil,
        Array.toArray_toList, ← pending]
  | cons edit rest ih =>
      rw [List.foldl_cons, @ih (content.logged edit) (log.push edit)]
      · simp [logged]
      · simp [logged, pending]

theorem fst_replay
    (sourceAir : UInt32)
    (state : Section × Nat)
    (edit : Edit) :
    (replay sourceAir state edit).1 = state.1.edited sourceAir edit := by
  rw [replay, edited]
  cases state.1.setBlock edit.layer edit.x edit.y edit.z sourceAir
    edit.id <;> rfl

/-- Counting the edits of a replay does not change what they do. -/
theorem fst_foldl_replay
    (sourceAir : UInt32)
    (edits : List Edit)
    (state : Section × Nat) :
    (edits.foldl (replay sourceAir) state).1 =
      edits.foldl (edited sourceAir) state.1 := by
  induction edits generalizing state with
  | nil => rfl
  | cons edit rest ih => rw [List.foldl_cons, ih, fst_replay, List.foldl_cons]

/--
A section that is filled: the content takes its place, and its log is
replayed.
-/
def filledBy (sourceAir : UInt32) (content old : Section) : Section :=
  ((old.mergeFrom content).applyPending sourceAir).1

theorem filledBy_of_log
    {old : Section}
    {log : Array Edit}
    (pending : old.pending = some log)
    (sourceAir : UInt32)
    (content : Section) :
    filledBy sourceAir content old =
      log.toList.foldl (edited sourceAir)
        { old.mergeFrom content with pending := none } := by
  have kept : (old.mergeFrom content).pending = some log := pending
  rw [filledBy, applyPending, kept]
  dsimp only
  rw [← Array.foldl_toList, fst_foldl_replay]

theorem pending_foldl_edited
    (sourceAir : UInt32)
    (edits : List Edit)
    (content : Section) :
    (edits.foldl (edited sourceAir) content).pending = content.pending := by
  induction edits generalizing content with
  | nil => rfl
  | cons edit rest ih => rw [List.foldl_cons, ih, pending_edited]

/-- A section that was filled awaits nothing. -/
theorem pending_filledBy
    {old : Section}
    {log : Array Edit}
    (pending : old.pending = some log)
    (sourceAir : UInt32)
    (content : Section) :
    (filledBy sourceAir content old).pending = none := by
  rw [filledBy_of_log pending, pending_foldl_edited]

/--
Edits may be logged before a section is filled or made afterwards: the section
is the same.
-/
theorem filledBy_foldl_logged
    {old : Section}
    {log : Array Edit}
    (pending : old.pending = some log)
    (sourceAir : UInt32)
    (content : Section)
    (edits : List Edit) :
    filledBy sourceAir content (edits.foldl logged old) =
      edits.foldl (edited sourceAir) (filledBy sourceAir content old) := by
  rw [pending_foldl_logged pending, filledBy_of_log rfl,
    filledBy_of_log pending, Array.toList_append, List.foldl_append]
  rfl

end Section

/-! ## Columns -/

namespace Column

variable {column : Column} {slot : Nat}

/-- The sections past the declared ones await their content. -/
theorem section?_create
    {pos : ColumnPos}
    {count declared : Nat}
    (high : declared ≤ slot)
    (inside : slot < count) :
    (create pos count declared).section? slot = some .awaiting := by
  rw [section?, create, Array.getElem?_map, Array.getElem?_range,
    if_pos inside, Option.map_some, if_neg (Nat.not_lt.2 high)]

theorem section?_modifySection
    (column : Column)
    (slot : Nat)
    (change : Section → Section) :
    (column.modifySection slot change).section? slot =
      (column.section? slot).map change := by
  rw [section?, modifySection, Array.getElem?_modify, if_pos rfl, section?]

theorem modifySection_modifySection
    (column : Column)
    (slot : Nat)
    (first second : Section → Section) :
    (column.modifySection slot first).modifySection slot second =
      column.modifySection slot fun content => second (first content) := by
  simp only [modifySection, mk.injEq, and_true, true_and]
  apply Array.ext_getElem?
  intro place
  simp only [Array.getElem?_modify]
  split
  · rw [Option.map_map]
    rfl
  · rfl

theorem modifySection_id
    (column : Column)
    (slot : Nat) :
    (column.modifySection slot fun content => content) = column := by
  obtain ⟨pos, sections, entities, declared⟩ := column
  simp only [modifySection, mk.injEq, and_true, true_and]
  apply Array.ext_getElem?
  intro place
  simp [Array.getElem?_modify]

/--
What a change of a section does to other sections than the one in the slot
does not matter.
-/
theorem modifySection_congr
    {content : Section}
    (found : column.section? slot = some content)
    {change other : Section → Section}
    (same : change content = other content) :
    column.modifySection slot change = column.modifySection slot other := by
  rw [modifySection, modifySection, modify_congr found same]

theorem removeEntityAt_modifySection
    (column : Column)
    (slot : Nat)
    (change : Section → Section)
    (pos : BlockPos) :
    (column.modifySection slot change).removeEntityAt pos =
      (column.removeEntityAt pos).modifySection slot change := by
  simp only [removeEntityAt, modifySection]
  split <;> rfl

theorem putEntity_modifySection
    (column : Column)
    (slot : Nat)
    (change : Section → Section)
    (entity : SourceEntity) :
    (column.modifySection slot change).putEntity entity =
      (column.putEntity entity).modifySection slot change := by
  rw [putEntity, removeEntityAt_modifySection]
  rfl

theorem foldl_putEntity_modifySection
    (entities : List SourceEntity)
    (column : Column)
    (slot : Nat)
    (change : Section → Section) :
    entities.foldl putEntity (column.modifySection slot change) =
      (entities.foldl putEntity column).modifySection slot change := by
  induction entities generalizing column with
  | nil => rfl
  | cons entity rest ih =>
      rw [List.foldl_cons, putEntity_modifySection, ih, List.foldl_cons]

/-- Records do not matter to sections, nor sections to records. -/
theorem fill_eq
    (column : Column)
    (slot : Nat)
    (content : Section)
    (sourceAir : UInt32)
    (entities : List SourceEntity) :
    column.fill slot content sourceAir entities =
      (entities.foldl putEntity column).modifySection slot
        (.filledBy sourceAir content) :=
  foldl_putEntity_modifySection entities column slot
    (.filledBy sourceAir content)

theorem sections_removeEntityAt
    (column : Column)
    (pos : BlockPos) :
    (column.removeEntityAt pos).sections = column.sections := by
  rw [removeEntityAt]
  split <;> rfl

theorem sections_foldl_putEntity
    (entities : List SourceEntity)
    (column : Column) :
    (entities.foldl putEntity column).sections = column.sections := by
  induction entities generalizing column with
  | nil => rfl
  | cons entity rest ih =>
      rw [List.foldl_cons, ih]
      exact column.sections_removeEntityAt entity.position

theorem removeEntityAt_of_absent
    {pos : BlockPos}
    (absent : column.entityAt? pos = none) :
    column.removeEntityAt pos = column := by
  have nowhere : column.entities.findIdx? (·.position == pos) = none := by
    rw [Array.findIdx?_eq_none_iff]
    intro entity member
    have other := Array.find?_eq_none.1 absent entity member
    simpa using other
  rw [removeEntityAt, nowhere]

/--
Edits may be logged before a slot is filled or made afterwards: the column is
the same.
-/
theorem fill_modifySection_logged
    {content : Section}
    {log : Array Edit}
    (found : column.section? slot = some content)
    (pending : content.pending = some log)
    (arriving : Section)
    (sourceAir : UInt32)
    (entities : List SourceEntity)
    (edits : List Edit) :
    (column.modifySection slot fun content =>
      edits.foldl Section.logged content).fill slot
          arriving sourceAir entities =
        (column.fill slot arriving sourceAir entities).modifySection slot
          fun content =>
            edits.foldl (Section.edited sourceAir) content := by
  have here : (entities.foldl putEntity column).section? slot =
      some content := by
    rw [section?, sections_foldl_putEntity]
    exact found
  rw [fill_eq, fill_eq, foldl_putEntity_modifySection,
    modifySection_modifySection, modifySection_modifySection]
  exact modifySection_congr here
    (Section.filledBy_foldl_logged pending sourceAir arriving edits)

/-- The block that a change replaces, air where there is none. -/
def replaced
    (column : Column)
    (table : MappingTable)
    (slot : Nat)
    (update : BlockUpdate) : UInt32 :=
  ((column.section? slot).bind fun content =>
    content.blockAt? update.layer update.edit.x update.edit.y
      update.edit.z).getD table.sourceAir

/-- Whether a change gives its cell a block of another tag. -/
def retags
    (column : Column)
    (table : MappingTable)
    (slot : Nat)
    (update : BlockUpdate) : Bool :=
  table.tag? (column.replaced table slot update) != table.tag? update.source

/-- A column after a change of a block whose section is there. -/
def updated
    (table : MappingTable)
    (slot : Nat)
    (column : Column)
    (update : BlockUpdate) : Column :=
  let written :=
    column.modifySection slot (·.edited table.sourceAir update.edit)
  if column.retags table slot update then written.removeEntityAt update.pos
  else written

theorem sections_updated
    (table : MappingTable)
    (slot : Nat)
    (column : Column)
    (update : BlockUpdate) :
    (updated table slot column update).sections =
      column.sections.modify slot (·.edited table.sourceAir update.edit) := by
  rw [updated]
  split
  · exact sections_removeEntityAt _ _
  · rfl

theorem section?_updated
    (table : MappingTable)
    (slot : Nat)
    (column : Column)
    (update : BlockUpdate) :
    (updated table slot column update).section? slot =
      (column.section? slot).map (·.edited table.sourceAir update.edit) := by
  rw [section?, sections_updated, Array.getElem?_modify, if_pos rfl, section?]

/-- A column after a change of a block whose section awaits its content. -/
def logged (slot : Nat) (column : Column) (update : BlockUpdate) : Column :=
  column.modifySection slot (·.logged update.edit)

/-- A section that is in a slot and has its content. -/
def Arrived (column : Column) (slot : Nat) : Prop :=
  ∃ content, column.section? slot = some content ∧ content.pending = none

/-- A section that is in a slot and keeps a log until its content comes. -/
def Awaits (column : Column) (slot : Nat) : Prop :=
  ∃ content log, column.section? slot = some content ∧
    content.pending = some log

theorem arrived_updated
    {table : MappingTable}
    (arrived : column.Arrived slot)
    (update : BlockUpdate) :
    (updated table slot column update).Arrived slot := by
  obtain ⟨content, found, pending⟩ := arrived
  refine ⟨content.edited table.sourceAir update.edit, ?_, ?_⟩
  · rw [section?_updated, found, Option.map_some]
  · rw [Section.pending_edited, pending]

theorem arrived_fill
    {content : Section}
    {log : Array Edit}
    (found : column.section? slot = some content)
    (pending : content.pending = some log)
    (arriving : Section)
    (sourceAir : UInt32)
    (entities : List SourceEntity) :
    (column.fill slot arriving sourceAir entities).Arrived slot := by
  refine ⟨.filledBy sourceAir arriving content, ?_, ?_⟩
  · rw [fill_eq, section?_modifySection, section?, sections_foldl_putEntity]
    exact congrArg (Option.map _) found
  · exact Section.pending_filledBy pending sourceAir arriving

theorem awaits_logged
    (awaits : column.Awaits slot)
    (update : BlockUpdate) :
    (logged slot column update).Awaits slot := by
  obtain ⟨content, log, found, pending⟩ := awaits
  refine ⟨content.logged update.edit, log.push update.edit, ?_, ?_⟩
  · rw [logged, section?_modifySection, found, Option.map_some]
  · rw [Section.logged, pending, Option.map_some]

/-- Edits logged one by one in a column are logged in its section. -/
theorem foldl_logged
    (slot : Nat)
    (updates : List BlockUpdate)
    (column : Column) :
    updates.foldl (logged slot) column =
      column.modifySection slot fun content =>
        (updates.map BlockUpdate.edit).foldl Section.logged content := by
  induction updates generalizing column with
  | nil => exact (modifySection_id column slot).symm
  | cons update rest ih =>
      rw [List.foldl_cons, ih, logged, modifySection_modifySection]
      rfl

/--
The sections of a column after changes: those of one slot are made in it, in
order.
-/
theorem sections_foldl_updated
    (table : MappingTable)
    (slot : Nat)
    (updates : List BlockUpdate)
    (column : Column) :
    (updates.foldl (updated table slot) column).sections =
      (column.modifySection slot fun content =>
        (updates.map BlockUpdate.edit).foldl (Section.edited table.sourceAir)
          content).sections := by
  induction updates generalizing column with
  | nil => exact congrArg Column.sections (modifySection_id column slot).symm
  | cons update rest ih =>
      have written : (updated table slot column update).modifySection slot
            (fun content =>
              (rest.map BlockUpdate.edit).foldl
                (Section.edited table.sourceAir) content) =
          { (updated table slot column update) with
            sections := ((column.modifySection slot
              (·.edited table.sourceAir update.edit)).modifySection slot
              fun content =>
                (rest.map BlockUpdate.edit).foldl
                  (Section.edited table.sourceAir) content).sections } := by
        simp only [modifySection, sections_updated]
      rw [List.foldl_cons, ih, written, modifySection_modifySection]
      rfl

end Column

/-! ## Stores -/

namespace Store

/-- The store after a list of changes, and what became of each. -/
def changeBlocks (store : Store) : List BlockUpdate → Store × List BlockChange
  | [] => (store, [])
  | update :: rest =>
      let outcome := store.changeBlock update.pos update.layer update.source
      let later := outcome.store.changeBlocks rest
      (later.1, outcome.value :: later.2)

/--
A store holds a column at a position, and is otherwise like another store in
what it shows.
-/
structure Revised
    (base : Store)
    (pos : ColumnPos)
    (column : Column)
    (store : Store) : Prop where
  settings_eq : store.settings = base.settings
  converter_eq : store.converter = base.converter
  view_eq : store.view = base.view
  here : store.columns[pos]? = some column
  elsewhere : ∀ other, other ≠ pos →
    store.columns[other]? = base.columns[other]?

theorem revised_self
    {store : Store}
    {pos : ColumnPos}
    {column : Column}
    (loaded : store.columns[pos]? = some column) :
    store.Revised pos column store :=
  ⟨rfl, rfl, rfl, loaded, fun _ _ => rfl⟩

theorem slot?_congr
    {store other : Store}
    (same : other.settings = store.settings)
    (sectionY : Int32) :
    other.slot? sectionY = store.slot? sectionY := by
  rw [slot?, slot?, minY, minY, sectionCount, sectionCount, same]

namespace Revised

variable
    {base store : Store}
    {pos : ColumnPos}
    {column : Column}
    (revised : base.Revised pos column store)
include revised

theorem table_eq : store.table = base.table := by
  rw [table, revised.converter_eq, table]

theorem column?_self (shown : base.view.loads pos = true) :
    store.column? pos = some column := by
  rw [column?, revised.view_eq, if_pos shown, revised.here]

theorem column?_of_ne
    {other : ColumnPos}
    (apart : other ≠ pos) :
    store.column? other = base.column? other := by
  rw [column?, revised.view_eq, revised.elsewhere other apart, column?]

/-- Columns of other queues and wishes than the store's are the same columns. -/
theorem congr
    {other : Store}
    (settings : other.settings = store.settings)
    (converter : other.converter = store.converter)
    (view : other.view = store.view)
    (columns : other.columns = store.columns) :
    base.Revised pos column other where
  settings_eq := settings.trans revised.settings_eq
  converter_eq := converter.trans revised.converter_eq
  view_eq := view.trans revised.view_eq
  here := by rw [columns, revised.here]
  elsewhere := by
    intro other apart
    rw [columns, revised.elsewhere other apart]

theorem modify (change : Column → Column) :
    base.Revised pos (change column)
      { store with columns := store.columns.modify pos change } where
  settings_eq := revised.settings_eq
  converter_eq := revised.converter_eq
  view_eq := revised.view_eq
  here := by
    rw [Std.TreeMap.getElem?_modify, if_pos Std.ReflCmp.compare_self,
      revised.here, Option.map_some]
  elsewhere := by
    intro other apart
    rw [Std.TreeMap.getElem?_modify, if_neg]
    · exact revised.elsewhere other apart
    · exact fun same => apart (Std.LawfulEqCmp.eq_of_compare same).symm

theorem modifyColumn
    (shown : base.view.loads pos = true)
    (change : Column → Column) :
    base.Revised pos (change column) (store.modifyColumn pos change) := by
  have visible : store.view.loads pos = true := by
    rw [revised.view_eq]
    exact shown
  rw [Store.modifyColumn, if_pos visible]
  exact revised.modify change

end Revised

section

variable
    {base store : Store}
    {place : SectionPos}
    {column : Column}
    {slot : Nat}
    {content : Section}
    {update : BlockUpdate}
    (revised : base.Revised place.column column store)
    (shown : base.view.loads place.column = true)
    (inside : base.slot? place.y = some slot)
    (found : column.section? slot = some content)
    (layer : update.layer < maxLayers)
    (here : update.pos.sectionPos = place)
include revised shown inside

theorem Revised.modifySection (change : Section → Section) :
    base.Revised place.column (column.modifySection slot change)
      (store.modifySection place change) := by
  rw [Store.modifySection, slot?_congr revised.settings_eq, inside]
  exact revised.modifyColumn shown (·.modifySection slot change)

/-- A section that is under way and has the right shape fills its slot. -/
theorem Revised.mergeSection
    {arriving : Section}
    (asked : store.inFlight.contains place = true)
    (shape : arriving.checkShape = .ok ())
    (entities : List SourceEntity) :
    let outcome := store.mergeSection place arriving entities
    outcome.value = .ok () ∧
      base.Revised place.column
        (column.fill slot (arriving.normalize base.table)
          base.table.sourceAir entities)
        outcome.store := by
  have loaded : store.isLoaded place.column = true := by
    rw [isLoaded, revised.column?_self shown]
    rfl
  have accepted : store.accept place arriving = .ok slot := by
    rw [accept, asked, loaded, slot?_congr revised.settings_eq, inside, shape]
    rfl
  simp only [Store.mergeSection, accepted, true_and]
  have filled := revised.modify
    (·.fill slot (arriving.normalize base.table)
      base.table.sourceAir entities)
  rw [revised.table_eq]
  exact filled.congr rfl rfl rfl rfl

include found

theorem Revised.section?_eq : store.section? place = some content := by
  rw [section?, slot?_congr revised.settings_eq, inside,
    revised.column?_self shown]
  exact found

include layer here

/-- A change of a section that awaits its content is logged. -/
theorem Revised.changeBlock_of_awaiting
    {log : Array Edit}
    (awaiting : content.pending = some log) :
    let outcome := store.changeBlock update.pos update.layer update.source
    outcome.value = .deferred ∧
      base.Revised place.column (column.logged slot update)
        outcome.store := by
  subst here
  have there := revised.section?_eq shown inside found
  have buffered :
      content.bufferEdit ⟨update.pos.inSection.1, update.pos.inSection.2.1,
      update.pos.inSection.2.2, update.layer, update.source⟩ =
        some (content.logged update.edit) :=
    @Section.bufferEdit_of_pending update.edit layer content log awaiting
  have outcome : store.changeBlock update.pos update.layer update.source =
      .silent
        (store.modifySection update.pos.sectionPos fun _ =>
          content.logged update.edit) .deferred := by
    rw [changeBlock, if_neg (Nat.not_le.2 layer), there]
    simp only [buffered]
  have logging :
      column.modifySection slot (fun _ => content.logged update.edit) =
      column.modifySection slot (·.logged update.edit) :=
    Column.modifySection_congr found rfl
  rw [outcome, Column.logged, ← logging]
  exact ⟨rfl, revised.modifySection shown inside _⟩

/-- A change of a section whose content is there is made in it. -/
theorem Revised.changeBlock_of_arrived (arrived : content.pending = none) :
    let outcome := store.changeBlock update.pos update.layer update.source
    (∃ destination entity, outcome.value = .applied destination entity) ∧
      base.Revised place.column (column.updated base.table slot update)
        outcome.store := by
  subst here
  have there := revised.section?_eq shown inside found
  have outcome : store.changeBlock update.pos update.layer update.source =
      store.applyChange update.pos update.layer update.source content := by
    rw [changeBlock, if_neg (Nat.not_le.2 layer), there]
    simp only [Section.bufferEdit_of_arrived arrived]
  have written :
      content.setBlock update.layer update.pos.inSection.1
        update.pos.inSection.2.1 update.pos.inSection.2.2
        store.table.sourceAir update.source =
        some (content.edited store.table.sourceAir update.edit) :=
    @Section.setBlock_eq_edited update.edit layer content
      store.table.sourceAir
  have writing :
      column.modifySection slot (fun _ => content.edited store.table.sourceAir
      update.edit) = column.modifySection slot
        (·.edited store.table.sourceAir update.edit) :=
    Column.modifySection_congr found rfl
  have revision := revised.modifySection shown inside fun _ =>
    content.edited store.table.sourceAir update.edit
  rw [writing] at revision
  have previous : column.replaced store.table slot update =
      (content.blockAt? update.layer update.pos.inSection.1
        update.pos.inSection.2.1 update.pos.inSection.2.2).getD
          store.table.sourceAir := by
    rw [Column.replaced, found]
    rfl
  rw [outcome, applyChange, ← revised.table_eq, Column.updated, Column.retags,
    previous]
  simp only [written]
  constructor
  · split <;> exact ⟨_, _, rfl⟩
  · split
    · exact revision.modifyColumn shown (·.removeEntityAt update.pos)
    · exact revision

end

/-! ### Lists of changes -/

/-- Changes of blocks take no section from those that are under way. -/
theorem inFlight_changeBlocks
    (store : Store)
    (updates : List BlockUpdate) :
    (store.changeBlocks updates).1.inFlight = store.inFlight := by
  induction updates generalizing store with
  | nil => rfl
  | cons update rest ih =>
      rw [changeBlocks]
      refine (ih _).trans ?_
      rw [changeBlock_eq]

/--
What each change makes of a column and what becomes of it, a list of changes
does in turn.
-/
theorem Revised.changeBlocks
    {base store : Store}
    {pos : ColumnPos}
    {column : Column}
    {updates : List BlockUpdate}
    (next : Column → BlockUpdate → Column)
    (fits : Column → Prop)
    (fate : BlockChange → Prop)
    (step : ∀ store column, base.Revised pos column store → fits column →
      ∀ update ∈ updates,
        let outcome := store.changeBlock update.pos update.layer update.source
        fate outcome.value ∧
          fits (next column update) ∧
          base.Revised pos (next column update) outcome.store)
    (revised : base.Revised pos column store)
    (fit : fits column) :
    (∀ value ∈ (store.changeBlocks updates).2, fate value) ∧
      fits (updates.foldl next column) ∧
      base.Revised pos (updates.foldl next column)
        (store.changeBlocks updates).1 := by
  induction updates generalizing store column with
  | nil =>
      exact ⟨fun _ member => absurd member List.not_mem_nil, fit, revised⟩
  | cons update rest ih =>
      obtain ⟨first, still, after⟩ :=
        step store column revised fit update List.mem_cons_self
      have later : ∀ store column, base.Revised pos column store →
          fits column → ∀ update ∈ rest, _ :=
        fun store column revised fit update member =>
          step store column revised fit update
            (List.mem_cons_of_mem _ member)
      obtain ⟨others, done, last⟩ := ih later after still
      refine ⟨?_, done, last⟩
      rw [Store.changeBlocks]
      rintro value (_ | ⟨_, member⟩)
      · exact first
      · exact others value member

section

variable
    {base store : Store}
    {place : SectionPos}
    {column : Column}
    {slot : Nat}
    {content : Section}
    {updates : List BlockUpdate}
    (revised : base.Revised place.column column store)
    (shown : base.view.loads place.column = true)
    (inside : base.slot? place.y = some slot)
    (found : column.section? slot = some content)
include revised shown inside found

/-- Changes of a section that awaits its content are all logged, in order. -/
theorem Revised.changeBlocks_of_awaiting
    (here : ∀ update ∈ updates, update.pos.sectionPos = place ∧
      update.layer < maxLayers)
    {log : Array Edit}
    (awaiting : content.pending = some log) :
    (∀ value ∈ (store.changeBlocks updates).2, value = .deferred) ∧
      base.Revised place.column (updates.foldl (Column.logged slot) column)
        (store.changeBlocks updates).1 := by
  have step : ∀ store column, base.Revised place.column column store →
      column.Awaits slot → ∀ update ∈ updates,
        let outcome := store.changeBlock update.pos update.layer update.source
        outcome.value = .deferred ∧
          (column.logged slot update).Awaits slot ∧
          base.Revised place.column (column.logged slot update)
            outcome.store := by
    rintro store column revised ⟨content, log, found, awaiting⟩ update member
    obtain ⟨there, layer⟩ := here update member
    obtain ⟨logged, after⟩ :=
      revised.changeBlock_of_awaiting shown inside found layer there
        awaiting
    exact ⟨logged,
      Column.awaits_logged ⟨content, log, found, awaiting⟩ update, after⟩
  obtain ⟨logged, -, after⟩ :=
    Revised.changeBlocks (Column.logged slot) (Column.Awaits · slot)
      (· = .deferred) step revised ⟨content, log, found, awaiting⟩
  exact ⟨logged, after⟩

/-- Changes of a section whose content is there are all made in it, in order. -/
theorem Revised.changeBlocks_of_arrived
    (here : ∀ update ∈ updates, update.pos.sectionPos = place ∧
      update.layer < maxLayers)
    (arrived : content.pending = none) :
    (∀ value ∈ (store.changeBlocks updates).2,
        ∃ destination entity, value = .applied destination entity) ∧
      base.Revised place.column
        (updates.foldl (Column.updated base.table slot) column)
        (store.changeBlocks updates).1 := by
  have step : ∀ store column, base.Revised place.column column store →
      column.Arrived slot → ∀ update ∈ updates,
        let outcome := store.changeBlock update.pos update.layer update.source
        (∃ destination entity, outcome.value = .applied destination entity) ∧
          (column.updated base.table slot update).Arrived slot ∧
          base.Revised place.column (column.updated base.table slot update)
            outcome.store := by
    rintro store column revised ⟨content, found, arrived⟩ update member
    obtain ⟨there, layer⟩ := here update member
    obtain ⟨made, after⟩ :=
      revised.changeBlock_of_arrived shown inside found layer there arrived
    exact ⟨made, Column.arrived_updated ⟨content, found, arrived⟩ update,
      after⟩
  obtain ⟨made, -, after⟩ :=
    Revised.changeBlocks (Column.updated base.table slot)
      (Column.Arrived · slot)
      (∃ destination entity, · = .applied destination entity) step revised
      ⟨content, found, arrived⟩
  exact ⟨made, after⟩

end

end Store

end VoxelRelay
