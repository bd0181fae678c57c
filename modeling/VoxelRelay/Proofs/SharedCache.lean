import VoxelRelay.Proofs.CachedLight
import VoxelRelay.Proofs.SendOrder

/-!
# Stores that share a light cache

Several stores may take turns with one light cache, so that each finds there
what the others have computed.  None of them can tell this from its messages,
as long as all stores agree on what blocks do to light and no two computations
under way have the same key.

Neither can be left out.  A key is made of the blocks and of the light that
comes from the neighbors, and not of what the blocks do to light: where the
tables of two stores differ in that, one of them sends the light of the other.
And a key is a hash, which different computations may share.
-/

namespace VoxelRelay

/-- The same operation with the cache that it finds. -/
def StoreOperation.finding (cache : LightCache) :
    StoreOperation → StoreOperation
  | .tick _ spawned => .tick cache spawned
  | operation => operation

namespace Store

/-- What an operation computes, or looks up in the cache that it finds. -/
def tasks
    (store : Store)
    (cache : LightCache) : StoreOperation → List LightTask
  | .tick _ _ => store.tickTasks cache
  | _ => []

/-- The cache after an operation. -/
def cacheAfter
    (store : Store)
    (cache : LightCache) : StoreOperation → LightCache
  | .tick _ spawned => (store.tick cache spawned).2
  | _ => cache

theorem tasks_tick
    (store : Store)
    (cache found : LightCache)
    (spawned : Bool) :
    store.tasks cache (.tick found spawned) = store.tickTasks cache :=
  rfl

/-- The messages of a tick are those with the cache that it finds. -/
theorem messages_tick_finding
    (store : Store)
    (cache found : LightCache)
    (spawned : Bool) :
    (store.perform ((StoreOperation.tick found spawned).finding cache)).2 =
      (store.tick cache spawned).1.messages :=
  rfl

/--
All messages that a store sends during operations with a cache that nobody
else uses.
-/
def messagesWith
    (store : Store)
    (cache : LightCache) : List StoreOperation → List Message
  | [] => []
  | operation :: rest =>
      let after := store.perform (operation.finding cache)
      after.2 ++ after.1.messagesWith (store.cacheAfter cache operation) rest

/--
An operation does the same with any two caches that hold results of its tasks.
-/
theorem perform_eq_of_holds
    {tasks : List LightTask}
    (unambiguous : LightTask.Unambiguous tasks)
    (store : Store)
    {cache other : LightCache}
    (holds : cache.Holds tasks)
    (otherHolds : other.Holds tasks)
    {operation : StoreOperation}
    (included : store.tasks cache operation ⊆ tasks) :
    store.perform (operation.finding other) =
      store.perform (operation.finding cache) ∧
      (store.cacheAfter cache operation).Holds tasks ∧
      (store.cacheAfter other operation).Holds tasks := by
  cases operation with
  | tick found spawned =>
      obtain ⟨same, kept, otherKept⟩ :=
        store.tick_eq_of_holds unambiguous holds otherHolds included spawned
      exact ⟨congrArg (fun outcome => (outcome.store, outcome.messages)) same,
        kept, otherKept⟩
  | _ => exact ⟨rfl, holds, otherHolds⟩

/-! ## Settings and tables stay as they are -/

/-- A store has the settings of another and the same tables. -/
structure SameTables (store other : Store) : Prop where
  settings_eq : other.settings = store.settings
  converter_eq : other.converter = store.converter

theorem SameTables.trans
    {store other last : Store}
    (first : store.SameTables other)
    (second : other.SameTables last) :
    store.SameTables last where
  settings_eq := second.settings_eq.trans first.settings_eq
  converter_eq := second.converter_eq.trans first.converter_eq

theorem sameTables_createColumn
    (store : Store)
    (pos : ColumnPos)
    (declared : Nat) :
    store.SameTables (store.createColumn pos declared).store := by
  unfold createColumn
  split
  · simp only
    split <;> exact ⟨rfl, rfl⟩
  · exact ⟨rfl, rfl⟩

theorem sameTables_unloadColumn
    (store : Store)
    (pos : ColumnPos) :
    store.SameTables (store.unloadColumn pos).store := by
  unfold unloadColumn
  split <;> exact ⟨rfl, rfl⟩

theorem sameTables_unloadAll
    (store : Store)
    (positions : List ColumnPos) :
    store.SameTables (store.unloadAll positions).1 :=
  unloadAll_induction (fun after _ => store.SameTables after)
    (fun after _ pos same => same.trans (after.sameTables_unloadColumn pos))
    ⟨rfl, rfl⟩ positions

theorem sameTables_unloadOutsiders
    (store : Store)
    (view : ViewWindow) :
    store.SameTables { store with view := view }.unloadOutsiders.store :=
  have moved : store.SameTables { store with view := view } := ⟨rfl, rfl⟩
  moved.trans (sameTables_unloadAll _ _)

theorem sameTables_tick
    (store : Store)
    (cache : LightCache)
    (spawned : Bool) :
    store.SameTables (store.tick cache spawned).1.store := by
  obtain ⟨light, relight, wanted, inFlight, after⟩ :=
    store.exists_store_tick cache spawned
  have sent :=
    TickState.sameView_sendDue store.settings.scheduler.columnsPerTick
      ⟨store, cache, [], [], ⟨0, 0, 0, 0⟩⟩
  rw [after]
  exact ⟨sent.settings_eq, sent.converter_eq⟩

/-- No operation changes the settings of a store or its tables. -/
theorem sameTables_perform
    (store : Store)
    (operation : StoreOperation) :
    store.SameTables (store.perform operation).1 := by
  cases operation with
  | createColumn pos declared =>
      exact store.sameTables_createColumn pos declared
  | unloadColumn pos => exact store.sameTables_unloadColumn pos
  | setCenter center => exact store.sameTables_unloadOutsiders _
  | setRadius radius => exact store.sameTables_unloadOutsiders _
  | setPlayer player => exact ⟨rfl, rfl⟩
  | markDirty pos => exact ⟨rfl, rfl⟩
  | want pos =>
      rw [perform, want_eq]
      exact ⟨rfl, rfl⟩
  | wantRange pos first last =>
      rw [perform, wantRange_eq]
      exact ⟨rfl, rfl⟩
  | mergeSection pos content entities =>
      show store.SameTables (store.mergeSection pos content entities).store
      rw [(store.mergeSection_eq pos content entities).1]
      exact ⟨rfl, rfl⟩
  | changeBlock pos layer source =>
      show store.SameTables (store.changeBlock pos layer source).store
      rw [changeBlock_eq]
      exact ⟨rfl, rfl⟩
  | addEntity entity =>
      show store.SameTables (store.modifyColumn entity.position.column _)
      rw [modifyColumn_eq]
      exact ⟨rfl, rfl⟩
  | tick cache spawned => exact store.sameTables_tick cache spawned

/-- No operation of a run changes the settings of a store or its tables. -/
theorem sameTables_run
    (store : Store)
    (operations : List StoreOperation) :
    store.SameTables (store.run operations) :=
  run_induction store.SameTables (fun before operation same =>
    same.trans (before.sameTables_perform operation)) ⟨rfl, rfl⟩ operations

end Store

namespace TickState

theorem properties_of_mem_sendDueTasks
    {budget : Nat}
    {state : TickState}
    {task : LightTask}
    (member : task ∈ sendDueTasks budget state) :
    task.properties = state.store.table.light := by
  induction budget generalizing state with
  | zero => exact absurd member List.not_mem_nil
  | succ budget ih =>
      rw [sendDueTasks] at member
      split at member
      · exact absurd member List.not_mem_nil
      · next pos dirty _ =>
          let taken : TickState :=
            { state with store := { state.store with dirty := dirty } }
          rcases List.mem_append.1 member with here | later
          · rw [sendTasks] at here
            split at here
            · exact absurd here List.not_mem_nil
            · rw [List.mem_singleton.1 here]
              rfl
          · rw [ih later, Store.table,
              (taken.sameView_sendColumn pos).converter_eq]
            rfl

theorem properties_of_mem_relightDueTasks
    {budget : Nat}
    {state : TickState}
    {task : LightTask}
    (member : task ∈ relightDueTasks budget state) :
    task.properties = state.store.table.light := by
  induction budget generalizing state with
  | zero => exact absurd member List.not_mem_nil
  | succ budget ih =>
      rw [relightDueTasks] at member
      split at member
      · exact absurd member List.not_mem_nil
      · next pos relight _ =>
          let taken : TickState :=
            { state with store := { state.store with relight := relight } }
          rcases List.mem_append.1 member with here | later
          · rw [relightTasks] at here
            split at here
            · exact absurd here List.not_mem_nil
            · rw [List.mem_singleton.1 here]
              rfl
          · obtain ⟨light, step, -⟩ := taken.exists_light_relightColumn pos
            rw [ih later, step]
            rfl

end TickState

/-- A store computes light by the properties that its table gives to blocks. -/
theorem Store.properties_of_mem_tasks
    {store : Store}
    {cache : LightCache}
    {operation : StoreOperation}
    {task : LightTask}
    (member : task ∈ store.tasks cache operation) :
    task.properties = store.table.light := by
  cases operation with
  | tick found spawned =>
      rcases List.mem_append.1 member with sending | relighting
      · exact TickState.properties_of_mem_sendDueTasks sending
      · have kept :=
          TickState.sameView_sendDue store.settings.scheduler.columnsPerTick
          ⟨store, cache, [], [], ⟨0, 0, 0, 0⟩⟩
        rw [TickState.properties_of_mem_relightDueTasks relighting, table,
          sentDue, kept.converter_eq]
        rfl
  | _ => exact absurd member List.not_mem_nil

/-! ## A column that is due alone -/

namespace TickState

theorem sendDueTasks_of_idle
    {state : TickState}
    (idle : ∀ pos, ¬ state.store.dirty.contains pos = true)
    (budget : Nat) :
    sendDueTasks budget state = [] := by
  cases budget with
  | zero => rfl
  | succ budget =>
      rw [sendDueTasks]
      split
      · rfl
      · next pos _ taken =>
            exact absurd (ColumnQueue.pop?_eq_some taken).1 (idle pos)

theorem relightDueTasks_of_idle
    {state : TickState}
    (idle : ∀ pos, ¬ state.store.relight.contains pos = true)
    (budget : Nat) :
    relightDueTasks budget state = [] := by
  cases budget with
  | zero => rfl
  | succ budget =>
      rw [relightDueTasks]
      split
      · rfl
      · next pos _ taken =>
            exact absurd (ColumnQueue.pop?_eq_some taken).1 (idle pos)

end TickState

namespace Store

/-- A column beside none that has blocks or light is lit as if it were alone. -/
theorem lightInput_of_alone
    {store : Store}
    {pos : ColumnPos}
    (blocks : ∀ direction, store.converted[pos.neighbor direction]? = none)
    (light : ∀ direction, store.light[pos.neighbor direction]? = none)
    (palettes : Array Palette) :
    store.lightInput pos palettes = .isolated palettes := by
  rw [lightInput, LightInput.isolated]
  congr 2
  · exact funext blocks
  · exact funext light

/-- A column without neighbors that were sent is lit once, when it is sent. -/
theorem tick_of_alone
    {store : Store}
    {pos : ColumnPos}
    {column : Column}
    {rest : ColumnQueue}
    (taken : store.dirty.pop? = some (pos, rest))
    (alone : ∀ other, ¬ rest.contains other = true)
    (loaded : store.column? pos = some column)
    (budget : store.settings.scheduler.columnsPerTick ≠ 0)
    (idle : ∀ other, ¬ store.relight.contains other = true)
    (unsent : ∀ other ∈ pos.neighbors, other ∉ store.sent.insert pos)
    (cache : LightCache) :
    let target := store.converter.convert column store.minY
    let task : LightTask := ⟨store.table.light,
      { store with
        converted := store.converted.insert pos target.palettes }.lightInput
          pos
        target.palettes⟩
    let answer := cache.getOrCompute task.properties task.input
    store.tickTasks cache = [task] ∧
      (store.tick cache false).1.messages =
        [.column target (.ofLight answer.1)] ∧
      (store.tick cache false).2 = answer.2 := by
  intro target task answer
  let start : TickState := ⟨store, cache, [], [], ⟨0, 0, 0, 0⟩⟩
  let next : TickState := { start with store := { store with dirty := rest } }
  obtain ⟨budget, known⟩ := Nat.exists_eq_succ_of_ne_zero budget
  have shown : next.store.column? pos = some column := loaded
  have step : next.sendColumn pos = next.sentWith pos column answer :=
    TickState.sendColumn_eq_sentWith shown
  have sending : store.sentDue cache = next.sentWith pos column answer := by
    rw [sentDue, known, ← step]
    exact @TickState.sendDue_of_pop? start pos rest taken alone budget
  have quiet : ∀ other,
      ¬ (store.sentDue cache).store.relight.contains other = true := by
    intro other waits
    rw [sending] at waits
    rcases (contains_relight_relightNeighbors_iff _ _ _).1 waits with
      before | ⟨near, sent, -⟩
    · exact idle other before
    · exact unsent other near sent
  have lit : store.litDue cache = store.sentDue cache :=
    TickState.relightDue_of_idle quiet _
  have settled :
      TickState.sendDueTasks budget (next.sendColumn pos) = [] := by
    apply TickState.sendDueTasks_of_idle
    rwa [TickState.dirty_sendColumn]
  refine ⟨?_, ?_, ?_⟩
  · have first : TickState.sendDueTasks (budget + 1) start =
        next.sendTasks pos ++
          TickState.sendDueTasks budget (next.sendColumn pos) := by
      rw [TickState.sendDueTasks,
        show start.store.dirty.pop? = some (pos, rest) from taken]
    have sole : next.sendTasks pos = [task] := by
      rw [TickState.sendTasks, shown]
      rfl
    rw [tickTasks, TickState.relightDueTasks_of_idle quiet, known]
    exact (congrArg (· ++ []) first).trans (by rw [settled, sole]; rfl)
  · rw [(store.tick_of_not_spawned cache).2, lit, sending]
    rfl
  · have kept : (store.tick cache false).2 = (store.litDue cache).cache := rfl
    rw [kept, lit, sending]
    rfl

end Store

/-! ## Light as it is sent -/

theorem LightData.mem_slabs_foldl_push_iff
    (slab : LightSlab)
    (slabs : List (Option LightSlab))
    (parts : SplitLight)
    (slot : Nat) :
    slab ∈
      (slabs.foldl
        (fun (parts, slot) slab =>
          (SplitLight.push parts slot slab, slot + 1))
            (parts, slot)).1.slabs ↔
              slab ∈ parts.slabs ∨ some slab ∈ slabs := by
  induction slabs generalizing parts slot with
  | nil => simp
  | cons first rest ih =>
      rw [List.foldl_cons, ih, List.mem_cons]
      cases first with
      | none => simp [SplitLight.push]
      | some first => simp [SplitLight.push, or_assoc]

/-- The slabs that are sent are those that are present. -/
theorem LightData.mem_slabs_split_iff
    (light : LightData)
    (slab : LightSlab) :
    slab ∈ light.split.slabs ↔ ∃ slot, light.slab? slot = some slab := by
  rw [split, ← Array.foldl_toList, mem_slabs_foldl_push_iff]
  simp [slab?, Array.mem_iff_getElem?, Option.join_eq_some_iff]

/-- Light that is sent as darkness is sent is dark. -/
theorem LightData.level_eq_zero_of_split_eq
    {light dark : LightData}
    (same : light.split = dark.split)
    (zero : ∀ slot index, dark.level slot index = 0)
    (slot index : Nat) :
    light.level slot index = 0 := by
  cases presence : light.slab? slot with
  | none => exact level_eq_zero_of_slab? presence index
  | some slab =>
      have sent : slab ∈ dark.split.slabs :=
        same ▸ (light.mem_slabs_split_iff slab).2 ⟨slot, presence⟩
      obtain ⟨other, shown⟩ := (dark.mem_slabs_split_iff slab).1 sent
      rw [level_eq_of_slab? presence, ← level_eq_of_slab? shown index, zero]

/-! ## A lamp -/

/--
A section whose blocks own no block entities gets its blocks from the table
alone.
-/
theorem Converter.blocks_visitCells_of_untagged
    {converter : Converter}
    (untagged : ∀ id, converter.table.tag? id = none)
    (column : Column)
    (primary : Palette)
    (baseY : Int32) :
    (converter.visitCells column primary baseY).blocks =
      primary.mapIds converter.table.destinationOrAir := by
  let plan := converter.plan column primary baseY
  have unowned : ∀ (index : Nat) (tag : String),
      plan.owners[index]? ≠ some (some tag) := by
    intro index tag owner
    obtain ⟨id, -, owned⟩ := Array.mem_map.1 (Array.mem_of_getElem? owner)
    rw [ownerTag?, untagged] at owned
    cases owned
  have kept : ∀ (visit : CellVisit) (place : Place),
      (plan.visit visit place).blocks = visit.blocks := by
    intro visit place
    rw [VisitPlan.visit_unfold]
    split
    · next tag owner => exact absurd owner (unowned _ tag)
    · cases visit.blocks.id? (visit.blocks.indices.get
          (visit.blocks.number place)).toNat with
      | none => rfl
      | some state => exact visit.blocks_counted state
  rw [visitCells_eq]
  generalize placesOf 16 = places
  suffices general :
      ∀ visit : CellVisit,
        (places.foldl plan.visit visit).blocks = visit.blocks from
    general _
  induction places with
  | nil => exact fun _ => rfl
  | cons place rest ih => exact fun visit => (ih _).trans (kept visit place)

namespace Store

/--
A converter shows blocks as the one with the lamp does, whatever else it knows
of them.
-/
structure ShowsLamps (converter : Converter) : Prop where
  blocks_eq : converter.table.blocks = lampTable.blocks
  sourceAir_eq : converter.table.sourceAir = air

theorem showsLamps_lampConverter : ShowsLamps lampConverter :=
  ⟨rfl, rfl⟩

/-- A store in which a column with a lamp is due. -/
def lampDue (converter : Converter) : Store :=
  (create lampSettings converter).run
    [.createColumn west 1, .changeBlock ⟨15, 8, 8⟩ 0 2, .markDirty west]

/-- What is computed when the column with the lamp is sent. -/
def lampTask (converter : Converter) : LightTask :=
  ⟨converter.table.light, .isolated westBlocks⟩

namespace ShowsLamps

variable {converter : Converter} (shows : ShowsLamps converter)
include shows

theorem tag?_eq (id : UInt32) : converter.table.tag? id = none := by
  have same : converter.table.tag? id = lampTable.tag? id := by
    rw [MappingTable.tag?, shows.blocks_eq, MappingTable.tag?]
  exact same.trans (tag?_lampTable id)

/-- The lamp is shown in the same way by all such converters. -/
theorem palettes_convert :
    (converter.convert lampColumn 0).palettes = westBlocks := by
  have shown : ∀ {other : Converter}, ShowsLamps other →
      (other.convert lampColumn 0).palettes =
        #[(LightInput.lampAt 15 8 8).mapIds lampTable.destinationOrAir] := by
    intro other shows
    have alone : lampSection.layer? 1 = none := by
      simp [lampSection, Section.ofLayers, Section.layer?]
    have same : other.table.destinationOrAir =
        lampTable.destinationOrAir := by
      funext id
      rw [MappingTable.destinationOrAir, MappingTable.destination?,
        shows.blocks_eq]
      rfl
    rw [Converter.palettes_convert_of_alone other rfl 0,
      Converter.convertSection_of_primary layer?_lampSection,
      Converter.blocks_assembled, alone, MappingTable.flooded,
      Converter.blocks_visitCells_of_untagged shows.tag?_eq, same]
  exact (shown shows).trans (shown showsLamps_lampConverter).symm

theorem lampDue_eq :
    lampDue converter =
      { (create lampSettings converter).forgetDerived west with
        columns :=
          ((∅ : Std.TreeMap ColumnPos Column).insert west
            (.create west 1 1)).modify west
            (·.modifySection 0 fun _ => lampSection)
        dirty := (ColumnQueue.empty.remove west).push west } := by
  let started : Store :=
    { (create lampSettings converter).forgetDerived west with
      columns :=
        (∅ : Std.TreeMap ColumnPos Column).insert west (.create west 1 1) }
  have created : ((create lampSettings converter).createColumn west 1).store =
      started := by
    have count : (create lampSettings converter).sectionCount = 1 :=
      show lampSettings.world.sectionCount = 1 from rfl
    rw [createColumn_of_renders rfl, count]
    rfl
  have loaded : started.column? west = some (.create west 1 1) :=
    Std.TreeMap.getElem?_insert_self
  have inside :
      started.slot? (BlockPos.sectionPos ⟨15, 8, 8⟩).y = some 0 := by
    rw [slot?_congr
      (show started.settings = (create lampSettings lampConverter).settings
        from rfl)]
    rfl
  have found : (Column.create west 1 1).section? 0 = some .empty := by
    rw [Column.section?, sections_create]
    rfl
  have written : Section.empty.setBlock 0 15 8 8 started.table.sourceAir 2 =
      some lampSection := by
    rw [show started.table.sourceAir = air from shows.sourceAir_eq]
    exact setBlock_lamp
  have same := (shows.tag?_eq ((Section.empty.blockAt? 0 15 8 8).getD
    started.table.sourceAir)).trans (shows.tag?_eq 2).symm
  have placed :=
    @changeBlock_of_same_tag started ⟨15, 8, 8⟩ 0 0 2 _ _ _ loaded
      inside found rfl (by decide) written same
  rw [lampDue, run, List.foldl_cons, List.foldl_cons, List.foldl_cons,
    List.foldl_nil]
  simp only [perform, created, placed]
  rfl

theorem converter_lampDue : (lampDue converter).converter = converter := by
  rw [shows.lampDue_eq]
  rfl

/-- The column with the lamp is lit once, by what the table says of lamps. -/
theorem tick_lampDue (cache : LightCache) :
    let task := lampTask converter
    let answer := cache.getOrCompute task.properties task.input
    (lampDue converter).tickTasks cache = [task] ∧
      ((lampDue converter).tick cache false).1.messages =
        [.column (converter.convert lampColumn 0) (.ofLight answer.1)] ∧
      ((lampDue converter).tick cache false).2 = answer.2 := by
  have idle : ∀ pos,
      ¬ (ColumnQueue.empty.remove west).contains pos = true := by
    intro pos waits
    exact ColumnQueue.not_contains_empty pos
      ((ColumnQueue.contains_remove_iff _ _ _).1 waits).2
  obtain ⟨rest, taken, alone⟩ := ColumnQueue.exists_pop?_push idle west
  let store : Store :=
    { (create lampSettings converter).forgetDerived west with
      columns :=
        ((∅ : Std.TreeMap ColumnPos Column).insert west
          (.create west 1 1)).modify west
          (·.modifySection 0 fun _ => lampSection)
      dirty := (ColumnQueue.empty.remove west).push west }
  have loaded : store.column? west = some lampColumn := by
    have placed :
        (Column.create west 1 1).modifySection 0 (fun _ => lampSection) =
          lampColumn := by
      rw [Column.modifySection, sections_create, lampColumn]
      congr 1
    have here : store.column? west = store.columns[west]? := rfl
    rw [here, Std.TreeMap.getElem?_modify, if_pos Std.ReflCmp.compare_self,
      Std.TreeMap.getElem?_insert_self, Option.map_some, placed]
  have budget : store.settings.scheduler.columnsPerTick ≠ 0 :=
    show lampSettings.scheduler.columnsPerTick ≠ 0 by decide
  have unsent : ∀ other ∈ west.neighbors, other ∉ store.sent.insert west := by
    intro other near sent
    rcases Std.TreeSet.mem_insert.1 sent with same | before
    · obtain rfl := Std.LawfulEqCmp.eq_of_compare same
      exact absurd near (by decide)
    · have gone : other ∈ (∅ : Std.TreeSet ColumnPos).erase west := before
      exact Std.TreeSet.not_mem_emptyc (Std.TreeSet.mem_erase.1 gone).2
  have input : ({ store with
      converted := store.converted.insert west westBlocks } :
          Store).lightInput west westBlocks =
        .isolated westBlocks := by
    apply lightInput_of_alone
    · intro direction
      show
        (((∅ : Std.TreeMap ColumnPos (Array Palette)).erase west).insert west
          westBlocks)[west.neighbor direction]? = none
      have apart : ¬ compare west (west.neighbor direction) = .eq := by
        cases direction <;> decide
      rw [Std.TreeMap.getElem?_insert, if_neg apart,
        Std.TreeMap.getElem?_erase, if_neg apart, Std.TreeMap.getElem?_emptyc]
    · intro direction
      show ((∅ : Std.TreeMap ColumnPos ColumnLight).erase west)[west.neighbor
        direction]? = none
      rw [Std.TreeMap.getElem?_erase]
      split
      · rfl
      · rw [Std.TreeMap.getElem?_emptyc]
  have sending :=
    store.tick_of_alone taken alone loaded budget idle unsent cache
  rw [shows.lampDue_eq]
  have target : store.converter.convert lampColumn store.minY =
      converter.convert lampColumn 0 :=
    rfl
  simp only [target, shows.palettes_convert, input] at sending
  exact sending

end ShowsLamps

end Store

/-! ## Stores that take turns -/

/-- Stores that share a cache. -/
structure StoreGroup (ι : Type) where
  stores : ι → Store
  cache : LightCache

namespace StoreGroup

variable {ι : Type} [DecidableEq ι]

/--
The stores after a turn, in which one of them performs an operation with the
shared cache.
-/
def after
    (group : StoreGroup ι)
    (turn : ι × StoreOperation) : StoreGroup ι where
  stores := Function.update group.stores turn.1
    ((group.stores turn.1).perform (turn.2.finding group.cache)).1
  cache := (group.stores turn.1).cacheAfter group.cache turn.2

theorem stores_after_self
    (group : StoreGroup ι)
    (turn : ι × StoreOperation) :
    (group.after turn).stores turn.1 =
      ((group.stores turn.1).perform (turn.2.finding group.cache)).1 :=
  Function.update_self ..

theorem stores_after_of_ne
    (group : StoreGroup ι)
    {turn : ι × StoreOperation}
    {i : ι}
    (apart : turn.1 ≠ i) :
    (group.after turn).stores i = group.stores i :=
  Function.update_of_ne (Ne.symm apart) ..

theorem cache_after_tick
    (group : StoreGroup ι)
    (i : ι)
    (found : LightCache)
    (spawned : Bool) :
    (group.after (i, .tick found spawned)).cache =
      ((group.stores i).tick group.cache spawned).2 :=
  rfl

/-- All messages that one of the stores sends while they take turns. -/
def messages
    (group : StoreGroup ι)
    (i : ι) : List (ι × StoreOperation) → List Message
  | [] => []
  | turn :: rest =>
      (if turn.1 = i then
        ((group.stores turn.1).perform (turn.2.finding group.cache)).2
      else []) ++ (group.after turn).messages i rest

/-- All that is computed, or looked up, while the stores take turns. -/
def tasks (group : StoreGroup ι) : List (ι × StoreOperation) → List LightTask
  | [] => []
  | turn :: rest =>
      (group.stores turn.1).tasks group.cache turn.2 ++
        (group.after turn).tasks rest

/-- The operations of one of the stores. -/
def own (i : ι) (turns : List (ι × StoreOperation)) : List StoreOperation :=
  turns.filterMap fun turn => if turn.1 = i then some turn.2 else none

/-- A store sends the same with the shared cache as with one of its own. -/
theorem messages_eq_of_unambiguous
    {tasks : List LightTask}
    (unambiguous : LightTask.Unambiguous tasks)
    (i : ι)
    {group : StoreGroup ι}
    (shared : group.cache.Holds tasks)
    {cache : LightCache}
    (sole : cache.Holds tasks)
    {turns : List (ι × StoreOperation)}
    (included : group.tasks turns ⊆ tasks) :
    group.messages i turns =
      (group.stores i).messagesWith cache (own i turns) := by
  induction turns generalizing group cache with
  | nil => rfl
  | cons turn rest ih =>
      obtain ⟨first, later⟩ := List.append_subset.1 included
      obtain ⟨same, sharedAfter, soleAfter⟩ :=
        (group.stores turn.1).perform_eq_of_holds unambiguous shared
          sole first
      by_cases mine : turn.1 = i
      · subst mine
        have listed : own turn.1 (turn :: rest) = turn.2 :: own turn.1 rest :=
          List.filterMap_cons_some (if_pos rfl)
        rw [messages, if_pos rfl, ih sharedAfter soleAfter later,
          stores_after_self, listed, Store.messagesWith, same]
      · have listed : own i (turn :: rest) = own i rest :=
          List.filterMap_cons_none (if_neg mine)
        rw [messages, if_neg mine, List.nil_append, ih sharedAfter sole later,
          stores_after_of_ne group mine, listed]

theorem properties_of_mem_tasks
    {properties : LightProperties}
    {group : StoreGroup ι}
    (alike : ∀ i, (group.stores i).table.light = properties)
    {turns : List (ι × StoreOperation)}
    {task : LightTask}
    (member : task ∈ group.tasks turns) :
    task.properties = properties := by
  induction turns generalizing group with
  | nil => exact absurd member List.not_mem_nil
  | cons turn rest ih =>
      rcases List.mem_append.1 member with here | later
      · exact (Store.properties_of_mem_tasks here).trans (alike turn.1)
      · refine ih (fun i => ?_) later
        by_cases mine : turn.1 = i
        · subst mine
          rw [stores_after_self, Store.table,
            (Store.sameTables_perform _ _).converter_eq]
          exact alike turn.1
        · rw [stores_after_of_ne group mine]
          exact alike i

/--
Stores that agree on what blocks do to light may share a cache: as long as no
two computations have the same key, each store sends what it would send with a
cache of its own, whatever the sizes of both caches and whoever computes.
-/
theorem messages_eq_messagesWith
    (stores : ι → Store)
    (turns : List (ι × StoreOperation))
    (capacity soleCapacity : Nat)
    (workers soleWorkers : Option WorkerPool)
    (alike : ∀ i j, (stores i).table.light = (stores j).table.light)
    (distinct : ∀ task ∈ (mk stores (.create capacity workers)).tasks turns,
      ∀ other ∈ (mk stores (.create capacity workers)).tasks turns,
        task.input.key = other.input.key → task.input = other.input)
    (i : ι) :
    (mk stores (.create capacity workers)).messages i turns =
      (stores i).messagesWith (.create soleCapacity soleWorkers)
        (own i turns) := by
  have unambiguous :
      LightTask.Unambiguous
        ((mk stores (.create capacity workers)).tasks turns) := by
    intro task member other second same
    have properties := properties_of_mem_tasks (fun j => alike j i) member
    have otherProperties :=
      properties_of_mem_tasks (fun j => alike j i) second
    rw [LightTask.light, LightTask.light, properties, otherProperties,
      distinct task member other second same]
  exact messages_eq_of_unambiguous unambiguous i
    (LightCache.holds_create _ _ _) (LightCache.holds_create _ _ _)
    (List.Subset.refl _)

/-- Computations that are written out differently may have the same key. -/
example :
    let input : LightInput := .isolated #[.blocks 0x11000000, .blocks 0]
    let other : LightInput :=
      .isolated #[.blocks 0x86000003, .blocks 0x950001cd]
    input.key = other.key ∧ input.keyWords ≠ other.keyWords := by
  decide +kernel

/-! ### Two stores with a lamp -/

/-- Two stores, each with a lamp in a column that is due. -/
def twoLamps
    (converters : Bool → Converter)
    (i : Bool) : Store := .lampDue (converters i)

/-- Both send their column, one after the other. -/
def lampTurns : List (Bool × StoreOperation) :=
  [(true, .tick (.create 0 none) false),
    (false, .tick (.create 0 none) false)]

section

variable
    {converters : Bool → Converter}
    (shows : ∀ i, Store.ShowsLamps (converters i))
include shows

/-- Each of them computes the light of its lamp. -/
theorem tasks_lampTurns (cache : LightCache) :
    (mk (twoLamps converters) cache).tasks lampTurns =
      [Store.lampTask (converters true),
        Store.lampTask (converters false)] := by
  have first : (twoLamps converters true).tickTasks cache =
      [Store.lampTask (converters true)] :=
    ((shows true).tick_lampDue cache).1
  have untouched : ((mk (twoLamps converters) cache).after
      (true, .tick (.create 0 none) false)).stores false =
        twoLamps converters false :=
    stores_after_of_ne _ (by decide)
  have second : ∀ found : LightCache,
      (twoLamps converters false).tickTasks found =
        [Store.lampTask (converters false)] :=
    fun found => ((shows false).tick_lampDue found).1
  rw [lampTurns, tasks, tasks, tasks, untouched, Store.tasks_tick,
    Store.tasks_tick, first, second]
  rfl

/-- Their computations have the same input. -/
theorem input_eq_of_mem_tasks_lampTurns
    {cache : LightCache}
    {task : LightTask}
    (member : task ∈ (mk (twoLamps converters) cache).tasks lampTurns) :
    task.input = .isolated Store.westBlocks := by
  rw [tasks_lampTurns shows] at member
  obtain rfl | rfl : task = Store.lampTask (converters true) ∨
      task = Store.lampTask (converters false) := by
    simpa using member
  all_goals rfl

/--
The second store sends what it finds in the cache that the first one leaves.
-/
theorem messages_lampTurns (cache : LightCache) :
    let first := Store.lampTask (converters true)
    let second := Store.lampTask (converters false)
    let left := (cache.getOrCompute first.properties first.input).2
    (mk (twoLamps converters) cache).messages false lampTurns =
      [.column ((converters false).convert Store.lampColumn 0)
        (.ofLight (left.getOrCompute second.properties second.input).1)] := by
  intro first second left
  have untouched : ((mk (twoLamps converters) cache).after
      (true, .tick (.create 0 none) false)).stores false =
        twoLamps converters false :=
    stores_after_of_ne _ (by decide)
  have handed : ((mk (twoLamps converters) cache).after
      (true, .tick (.create 0 none) false)).cache = left := by
    rw [cache_after_tick]
    exact ((shows true).tick_lampDue cache).2.2
  rw [lampTurns, messages, messages, messages, if_neg (by decide), if_pos rfl,
    untouched, handed, List.nil_append, List.append_nil,
    Store.messages_tick_finding]
  exact ((shows false).tick_lampDue left).2.1

/-- Alone it sends the light of its own lamp. -/
theorem messagesWith_lampTurns (cache : LightCache) :
    let task := Store.lampTask (converters false)
    (twoLamps converters false).messagesWith cache (own false lampTurns) =
      [.column ((converters false).convert Store.lampColumn 0)
        (.ofLight (cache.getOrCompute task.properties task.input).1)] := by
  intro task
  have listed : own false lampTurns = [.tick (.create 0 none) false] := rfl
  rw [listed, Store.messagesWith, Store.messagesWith, List.append_nil,
    Store.messages_tick_finding]
  exact ((shows false).tick_lampDue cache).2.1

end

/--
A store that shows other biomes shares a cache with one that has the lamp
alone.
-/
def biomeConverters : Bool → Converter
  | true => Store.lampConverter
  | false => ⟨Store.lampTable.added (.fallbackBiome 7), Store.lampTable⟩

theorem showsLamps_biomeConverters (i : Bool) :
    Store.ShowsLamps (biomeConverters i) := by
  cases i <;> exact ⟨rfl, rfl⟩

theorem light_biomeConverters (i : Bool) :
    (twoLamps biomeConverters i).table.light = Store.lampTable.light := by
  have same : (twoLamps biomeConverters i).converter = biomeConverters i :=
    (showsLamps_biomeConverters i).converter_lampDue
  rw [Store.table, same]
  cases i <;> rfl

/-- Tables may differ in the biomes that they show. -/
theorem messages_biomeConverters_eq_messagesWith :
    (∀ i j, (twoLamps biomeConverters i).table.light =
      (twoLamps biomeConverters j).table.light) ∧
      (∀ task ∈ (mk (twoLamps biomeConverters) (.create 1 none)).tasks
        lampTurns,
        ∀ other ∈ (mk (twoLamps biomeConverters) (.create 1 none)).tasks
          lampTurns,
          task.input.key = other.input.key → task.input = other.input) ∧
      (mk (twoLamps biomeConverters) (.create 1 none)).messages false
        lampTurns =
        (twoLamps biomeConverters false).messagesWith (.create 1 none)
          (own false lampTurns) := by
  have alike : ∀ i j, (twoLamps biomeConverters i).table.light =
      (twoLamps biomeConverters j).table.light :=
    fun i j => (light_biomeConverters i).trans (light_biomeConverters j).symm
  have distinct :
      ∀ task ∈ (mk (twoLamps biomeConverters) (.create 1 none)).tasks
        lampTurns,
      ∀ other ∈ (mk (twoLamps biomeConverters) (.create 1 none)).tasks
        lampTurns,
        task.input.key = other.input.key → task.input = other.input := by
    intro task member other second _
    exact (input_eq_of_mem_tasks_lampTurns showsLamps_biomeConverters
      member).trans
      (input_eq_of_mem_tasks_lampTurns showsLamps_biomeConverters second).symm
  exact ⟨alike, distinct,
    messages_eq_messagesWith (twoLamps biomeConverters) lampTurns 1 1 none
      none alike distinct false⟩

/-! ### A lamp that only one of two tables knows -/

/-- A table that shows lamps, but does not know that they shine. -/
def plainTable : MappingTable :=
  (MappingTable.create air air).added (.block 2 2 none)

/-- Lamps shine for one of the stores alone. -/
def plainConverters : Bool → Converter
  | true => Store.lampConverter
  | false => ⟨plainTable, plainTable⟩

theorem showsLamps_plainConverters (i : Bool) :
    Store.ShowsLamps (plainConverters i) := by
  cases i <;> exact ⟨rfl, rfl⟩

theorem state_plainTable (id : UInt32) :
    plainTable.state id = .transparent := by
  simp only [plainTable, MappingTable.added, MappingTable.state,
    MappingTable.create, air, Std.HashMap.getD_insert, Std.HashMap.getD_empty,
    ite_self]

/-- Nothing shines by a table without lamps. -/
theorem level_light_plainConverters (slot index : Nat) :
    (Store.lampTask (plainConverters false)).light.block.level
      slot index = 0 := by
  have dull :
      Dull plainTable.light
        (LightInput.isolated Store.westBlocks).sections := by
    intro voxel _
    show (plainTable.state _).emission = 0
    rw [state_plainTable]
    rfl
  apply Nat.eq_zero_of_le_zero
  refine @Dull.level_blockLight_le plainTable.light _ dull 0 ?_ slot index
  intro direction light known
  rw [LightInput.isolated, Sides.get_ofFn] at known
  cases known

/--
A store sends a glow that it would not compute, because another one with the
same blocks has computed it.
-/
theorem exists_light_of_other_table :
    (∀ task ∈ (mk (twoLamps plainConverters) (.create 1 none)).tasks
      lampTurns,
        ∀ other ∈ (mk (twoLamps plainConverters) (.create 1 none)).tasks
          lampTurns,
          task.input.keyWords = other.input.keyWords →
          task.input = other.input) ∧
      (mk (twoLamps plainConverters) (.create 1 none)).messages false
        lampTurns ≠
        (twoLamps plainConverters false).messagesWith (.create 1 none)
          (own false lampTurns) := by
  constructor
  · intro task member other second _
    exact (input_eq_of_mem_tasks_lampTurns showsLamps_plainConverters
      member).trans
      (input_eq_of_mem_tasks_lampTurns showsLamps_plainConverters second).symm
  · let lamp := Store.lampTask (plainConverters true)
    let plain := Store.lampTask (plainConverters false)
    have answered :
        (((LightCache.create 1 none).put lamp.input.key
            lamp.light).getOrCompute
        plain.properties plain.input).1 = lamp.light :=
      LightCache.light_getOrCompute_put (by decide) plain.properties
        lamp.input lamp.light
    have shared :
        (mk (twoLamps plainConverters) (.create 1 none)).messages false
          lampTurns =
        [.column ((plainConverters false).convert Store.lampColumn 0)
          (.ofLight lamp.light)] := by
      rw [messages_lampTurns showsLamps_plainConverters,
        LightCache.getOrCompute_create]
      exact congrArg (fun light => [Message.column _ (.ofLight light)])
        answered
    have sole : (twoLamps plainConverters false).messagesWith (.create 1 none)
          (own false lampTurns) =
        [.column ((plainConverters false).convert Store.lampColumn 0)
          (.ofLight plain.light)] := by
      rw [messagesWith_lampTurns showsLamps_plainConverters,
        LightCache.getOrCompute_create]
      rfl
    rw [shared, sole]
    intro same
    injection same with same
    injection same with _ same
    have shine :=
      LightData.level_eq_zero_of_split_eq (LightPayload.mk.inj same).2
        level_light_plainConverters 1 (cellIndex 15 8 8)
    have bright := @Store.le_levelAt_lamp lamp.input rfl
    exact absurd (bright.trans shine.le) (by decide)

end StoreGroup

end VoxelRelay
