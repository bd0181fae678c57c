import VoxelRelay.Proofs.ColumnChanges
import VoxelRelay.Proofs.ColumnRecords

/-!
# Where records are kept

A record that is added by itself goes to the column in which its position lies,
and so does every question for it.  The records that come with a section go to
the column of the section, wherever they lie.  A column therefore holds records
of its own positions and records that came with its sections, and a record that
came with a section is found at its position exactly if it lies in the column
of the section.
-/

namespace VoxelRelay

/-- A record comes with a section of a column. -/
def StoreOperation.Brings
    (pos : ColumnPos)
    (entity : SourceEntity) : StoreOperation → Prop
  | .mergeSection place _ entities => place.column = pos ∧ entity ∈ entities
  | _ => False

namespace Column

/-- Records of a column lie in it, or were brought to it. -/
structure Keeps
    (column : Column)
    (pos : ColumnPos)
    (operations : List StoreOperation) : Prop where
  distinct : column.Distinct
  home : ∀ entity ∈ column.entities,
    entity.position.column = pos ∨
    ∃ operation ∈ operations, operation.Brings pos entity

variable
    {column other : Column}
    {pos : ColumnPos}
    {operations : List StoreOperation}

theorem Keeps.congr
    (keeps : column.Keeps pos operations)
    (same : other.entities = column.entities) :
    other.Keeps pos operations where
  distinct := keeps.distinct.congr same
  home := by
    rw [same]
    exact keeps.home

theorem keeps_create
    (pos : ColumnPos)
    (count declared : Nat)
    (operations : List StoreOperation) :
    (create pos count declared).Keeps pos operations where
  distinct := distinct_create pos count declared
  home := fun _ member => absurd member (Array.not_mem_empty _)

theorem Keeps.removeEntityAt
    (keeps : column.Keeps pos operations)
    (place : BlockPos) :
    (column.removeEntityAt place).Keeps pos operations where
  distinct := keeps.distinct.removeEntityAt place
  home := fun entity member =>
    keeps.home entity
      ((mem_entities_removeEntityAt_iff keeps.distinct).1 member).1

theorem Keeps.putEntity
    (keeps : column.Keeps pos operations)
    {entity : SourceEntity}
    (here : entity.position.column = pos ∨
      ∃ operation ∈ operations, operation.Brings pos entity) :
    (column.putEntity entity).Keeps pos operations where
  distinct := keeps.distinct.putEntity entity
  home := by
    intro record member
    rcases (mem_entities_putEntity_iff keeps.distinct).1 member with
      rfl | ⟨stored, -⟩
    · exact here
    · exact keeps.home record stored

theorem Keeps.foldl_putEntity
    {entities : List SourceEntity}
    (here : ∀ entity ∈ entities, entity.position.column = pos ∨
      ∃ operation ∈ operations, operation.Brings pos entity)
    {column : Column}
    (keeps : column.Keeps pos operations) :
    (entities.foldl Column.putEntity column).Keeps pos operations := by
  induction entities generalizing column with
  | nil => exact keeps
  | cons entity rest ih =>
      exact ih
        (fun later member => here later (List.mem_cons_of_mem _ member))
        (keeps.putEntity (here entity List.mem_cons_self))

/--
Every change that an operation makes in a column keeps where its records come
from.
-/
theorem Keeps.of_columnChange
    {store : Store}
    {operation : StoreOperation}
    (performed : operation ∈ operations)
    (change : store.ColumnChange pos column operation other)
    (keeps : column.Keeps pos operations) :
    other.Keeps pos operations := by
  cases change with
  | kept => exact keeps
  | logged here layer awaits => exact keeps.congr rfl
  | @updated update slot here layer arrived =>
      have written : (column.modifySection slot
          (·.edited store.table.sourceAir update.edit)).Keeps pos
          operations := keeps.congr rfl
      rw [Column.updated]
      split
      · exact written.removeEntityAt update.pos
      · exact written
  | recorded here => exact keeps.putEntity (Or.inl here)
  | filled here accepted entities =>
      rw [fill_eq]
      have stored :
          (entities.foldl Column.putEntity column).Keeps pos operations :=
        keeps.foldl_putEntity fun entity member =>
          Or.inr ⟨_, performed, here, member⟩
      exact stored.congr rfl

end Column

namespace Store

/--
Every column of a store that was started empty keeps records of its own or
brought to it.
-/
theorem keeps_run
    (settings : Settings)
    (converter : Converter)
    (operations : List StoreOperation)
    {pos : ColumnPos}
    {column : Column}
    (known : ((create settings converter).run operations).columns[pos]? =
      some column) :
    column.Keeps pos operations := by
  refine @columns_run (fun pos column => column.Keeps pos operations)
    operations ?_ ?_ _ ?_ pos column known
  · exact fun pos count declared =>
      Column.keeps_create pos count declared operations
  · exact fun _ performed _ _ _ _ change keeps =>
      keeps.of_columnChange performed change
  · intro _ _ absent
    simp [create] at absent

/--
The last record delivered for a position is found there if it lies in the
section's column.
-/
theorem entityAt?_mergeSection
    {store : Store}
    {place : SectionPos}
    {content : Section}
    {entities : List SourceEntity}
    (taken : (store.mergeSection place content entities).value = .ok ())
    (distinct : ∀ column, store.columns[place.column]? = some column →
      column.Distinct)
    {before later : List SourceEntity}
    {entity : SourceEntity}
    (split : entities = before ++ entity :: later)
    (last : ∀ other ∈ later, other.position ≠ entity.position) :
    (store.mergeSection place content entities).store.entityAt?
      entity.position =
      if entity.position.column = place.column then some entity
      else store.entityAt? entity.position := by
  cases accepted : store.accept place content with
  | error refusal =>
      simp only [mergeSection, accepted] at taken
      cases taken
  | ok slot =>
      obtain ⟨column, loaded⟩ := exists_column?_of_accept accepted
      have there := columns_of_column? loaded
      rw [(mergeSection_of_accept accepted entities).2, entityAt?, column?]
      simp only [Std.TreeMap.getElem?_modify, Std.compare_eq_iff_eq]
      by_cases here : entity.position.column = place.column
      · have shown := loads_of_column? loaded
        rw [if_pos here.symm, if_pos here, here, if_pos shown, there,
          Option.map_some, Option.bind_some, Column.fill_eq, split]
        exact Column.entityAt?_foldl_putEntity (distinct column there) before
          entity last
      · rw [if_neg (Ne.symm here), if_neg here, entityAt?, column?]

/--
A column of a store that was started empty holds records of its own positions
and records that came with its sections.  After a section was taken in, the
last record delivered for a position is found there if the position lies in the
column of the section; what is found elsewhere is what was found before.
-/
theorem records_run
    (settings : Settings)
    (converter : Converter)
    (operations : List StoreOperation) :
    let store := (create settings converter).run operations
    (∀ pos column, store.columns[pos]? = some column →
      ∀ entity ∈ column.entities,
        entity.position.column = pos ∨
        ∃ operation ∈ operations, operation.Brings pos entity) ∧
      ∀ place content entities,
        let outcome := store.mergeSection place content entities
        outcome.value = .ok () →
        ∀ before entity later, entities = before ++ entity :: later →
          (∀ other ∈ later, other.position ≠ entity.position) →
            outcome.store.entityAt? entity.position =
              if entity.position.column = place.column then some entity
              else store.entityAt? entity.position := by
  intro store
  refine ⟨fun pos column known =>
    (keeps_run settings converter operations known).home, ?_⟩
  intro place content entities outcome taken before entity later split last
  exact entityAt?_mergeSection taken
    (fun column known =>
      (keeps_run settings converter operations known).distinct) split last

/-! ## Records of two columns -/

/--
Two columns are started, a record is stored in one, and a section of the other
is asked for.
-/
def twoColumnRun : List StoreOperation :=
  [.createColumn ⟨0, 0⟩ 0, .createColumn ⟨1, 0⟩ 0,
    .addEntity ⟨⟨17, 2, 3⟩, .null⟩, .want ⟨0, 0, 0⟩,
    .tick (.create 0 none) true]

def twoColumnStore : Store :=
  (create .standard bareConverter).run twoColumnRun

/-- A record that lies in the first column. -/
def westernRecord : SourceEntity := ⟨⟨1, 2, 3⟩, .emptyObject⟩

/-- A record that lies in the second column. -/
def easternRecord : SourceEntity := ⟨⟨17, 2, 3⟩, .emptyObject⟩

theorem accept_twoColumnStore :
    twoColumnStore.accept ⟨0, 0, 0⟩ (.filled 0) = .ok 4 :=
  accept_eq_ok (by decide) (by decide) (by decide)
    (Section.checkShape_filled 0)

/--
What is stored in the second column is not the record that comes with the
first one.
-/
theorem entityAt?_twoColumnStore_ne :
    twoColumnStore.entityAt? easternRecord.position ≠ some easternRecord := by
  intro same
  have stored :
      (twoColumnStore.entityAt? easternRecord.position).map (·.data.isNull) =
      some true := by
    decide +kernel
  rw [same] at stored
  cases stored

/--
Of two records for a position the later one is found there, and a stray one is
not.
-/
theorem records_run_twoColumnRun :
    let outcome := twoColumnStore.mergeSection ⟨0, 0, 0⟩ (.filled 0)
      [⟨westernRecord.position, .null⟩, westernRecord, easternRecord]
    outcome.value = .ok () ∧
      outcome.store.entityAt? westernRecord.position = some westernRecord ∧
      outcome.store.entityAt? easternRecord.position =
        twoColumnStore.entityAt? easternRecord.position := by
  intro outcome
  have taken : outcome.value = .ok () :=
    (mergeSection_of_accept accept_twoColumnStore _).1
  have found :=
    (records_run .standard bareConverter twoColumnRun).2 ⟨0, 0, 0⟩
      (.filled 0) _ taken
  refine ⟨taken, ?_, ?_⟩
  · exact found [⟨westernRecord.position, .null⟩] westernRecord
      [easternRecord] rfl (by decide)
  · exact found [⟨westernRecord.position, .null⟩, westernRecord] easternRecord
      [] rfl (by decide)

/--
A record of the second column that comes with a section of the first one is kept
in the first column, and the second one goes on showing the record it had.
-/
theorem easternRecord_astray :
    let outcome :=
      twoColumnStore.mergeSection ⟨0, 0, 0⟩ (.filled 0) [easternRecord]
    outcome.value = .ok () ∧
      (∃ column, outcome.store.columns[(⟨0, 0⟩ : ColumnPos)]? = some column ∧
        easternRecord ∈ column.entities) ∧
      easternRecord.position.column ≠ ⟨0, 0⟩ ∧
      outcome.store.isLoaded easternRecord.position.column = true ∧
      outcome.store.entityAt? easternRecord.position ≠
        some easternRecord := by
  intro outcome
  obtain ⟨taken, after⟩ :=
    mergeSection_of_accept accept_twoColumnStore [easternRecord]
  have apart : easternRecord.position.column ≠ ⟨0, 0⟩ := by decide
  have distinct : ∀ column,
    twoColumnStore.columns[(⟨0, 0⟩ : ColumnPos)]? = some column →
      column.Distinct :=
    fun column known =>
      (keeps_run .standard bareConverter twoColumnRun known).distinct
  refine ⟨taken, ?_, apart, ?_, ?_⟩
  · obtain ⟨column, loaded⟩ := exists_column?_of_accept accept_twoColumnStore
    have there := columns_of_column? loaded
    refine ⟨column.fill 4 ((Section.filled 0).normalize twoColumnStore.table)
      twoColumnStore.table.sourceAir [easternRecord], ?_, ?_⟩
    · rw [show outcome.store = _ from after, Std.TreeMap.getElem?_modify]
      exact (if_pos Std.ReflCmp.compare_self).trans
        (congrArg (Option.map _) there)
    · rw [Column.fill_eq]
      exact Array.mem_push_self
  · rw [show outcome.store = _ from after]
    decide
  · have last : ∀ other ∈ ([] : List SourceEntity),
        other.position ≠ easternRecord.position :=
      fun _ absent => absurd absent List.not_mem_nil
    have found :=
      entityAt?_mergeSection taken distinct (List.nil_append _).symm last
    rw [found.trans (if_neg apart)]
    exact entityAt?_twoColumnStore_ne

end Store

end VoxelRelay
