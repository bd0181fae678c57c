import VoxelRelay.Proofs.CheckedChanges
import VoxelRelay.Proofs.CheckedConversion
import VoxelRelay.Proofs.CheckedKeys
import VoxelRelay.Proofs.SharedCache

/-!
# Stores that never reach past an end

What a store keeps has one height throughout: its columns, the blocks that were
sent of them, and, with the two slabs outside the world, their light.  Every
operation keeps it so, and a cache that no other store uses holds light of that
height as well.  Therefore nothing that a tick, a change of a block or a
question does in a store that was reached by operations leaves the bounds of a
palette, a column or the light: the checked forms, which make an access only if
there is something to be found, all have the values of the plain ones.
-/

namespace VoxelRelay

/-! ## One height throughout -/

namespace Store

/--
The columns of a store, and what was sent of them, are in shape and as high as
its world.
-/
structure Shaped (store : Store) : Prop where
  columns : store.ColumnsShaped
  converted : ∀ (pos : ColumnPos) (palettes : Array Palette),
    store.converted[pos]? = some palettes →
      palettes.size = store.sectionCount ∧
      ∀ palette ∈ palettes, palette.SectionCube
  light : ∀ (pos : ColumnPos) (light : ColumnLight),
    store.light[pos]? = some light → light.Spans store.sectionCount

theorem shaped_create
    (settings : Settings)
    (converter : Converter) :
    (create settings converter).Shaped where
  columns := fun _ _ known => by simp [create] at known
  converted := fun _ _ known => by simp [create] at known
  light := fun _ _ known => by simp [create] at known

theorem SameTables.sectionCount_eq
    {store other : Store}
    (same : store.SameTables other) :
    other.sectionCount = store.sectionCount := by
  rw [sectionCount, same.settings_eq, sectionCount]

/-- All that a store has derived from columns, another had derived already. -/
structure DerivesNothing (store other : Store) : Prop where
  converted : ∀ (pos : ColumnPos) (palettes : Array Palette),
    other.converted[pos]? = some palettes →
    store.converted[pos]? = some palettes
  light : ∀ (pos : ColumnPos) (light : ColumnLight),
    other.light[pos]? = some light → store.light[pos]? = some light

namespace DerivesNothing

theorem of_eq
    {store other : Store}
    (converted : other.converted = store.converted)
    (light : other.light = store.light) :
    store.DerivesNothing other where
  converted := fun _ _ known => converted ▸ known
  light := fun _ _ known => light ▸ known

theorem trans
    {store other last : Store}
    (first : store.DerivesNothing other)
    (second : other.DerivesNothing last) :
    store.DerivesNothing last where
  converted :=
    fun pos palettes known =>
      first.converted pos palettes (second.converted pos _ known)
  light :=
    fun pos light known => first.light pos light (second.light pos _ known)

end DerivesNothing

theorem derivesNothing_forgetDerived
    (store : Store)
    (pos : ColumnPos) :
    store.DerivesNothing (store.forgetDerived pos) where
  converted := by
    intro other palettes known
    simp only [forgetDerived, Std.TreeMap.getElem?_erase] at known
    split at known
    · cases known
    · exact known
  light := by
    intro other light known
    simp only [forgetDerived, Std.TreeMap.getElem?_erase] at known
    split at known
    · cases known
    · exact known

/-- Only a tick derives anything. -/
theorem derivesNothing_perform
    (store : Store)
    {operation : StoreOperation}
    (other : ∀ cache spawned, operation ≠ .tick cache spawned) :
    store.DerivesNothing (store.perform operation).1 := by
  apply derived_induction store.DerivesNothing _ _ (.of_eq rfl rfl) other
  · intro store other _ converted light _ before
    exact before.trans (.of_eq converted light)
  · intro store pos before
    exact before.trans (store.derivesNothing_forgetDerived pos)

variable {store : Store} (shaped : store.Shaped)
include shaped

/-- Columns stay in shape and at their height, whatever becomes of them. -/
theorem Shaped.columns_perform
    {operation : StoreOperation}
    (delivers : operation.DeliversWellFormed) :
    (store.perform operation).1.ColumnsShaped := by
  intro pos column known
  rw [(store.sameTables_perform operation).sectionCount_eq]
  rcases columnChange_of_perform known with
    ⟨declared, -, rfl⟩ | ⟨old, before, change⟩
  · exact Column.shaped_create _ _ _
  · exact .of_columnChange delivers change (shaped.columns pos old before)

theorem Shaped.perform
    {operation : StoreOperation}
    (delivers : operation.DeliversWellFormed)
    (other : ∀ cache spawned, operation ≠ .tick cache spawned) :
    (store.perform operation).1.Shaped := by
  have derived := store.derivesNothing_perform other
  have count := (store.sameTables_perform operation).sectionCount_eq
  constructor
  · exact shaped.columns_perform delivers
  · intro pos palettes known
    rw [count]
    exact shaped.converted pos palettes (derived.converted pos palettes known)
  · intro pos light known
    rw [count]
    exact shaped.light pos light (derived.light pos light known)

/-- Queues, wishes and the record of what was sent do not matter. -/
theorem Shaped.congr
    {other : Store}
    (settings : other.settings = store.settings)
    (columns : other.columns = store.columns)
    (converted : other.converted = store.converted)
    (light : other.light = store.light) :
    other.Shaped := by
  have count : other.sectionCount = store.sectionCount := by
    rw [sectionCount, settings, sectionCount]
  constructor
  · rw [ColumnsShaped, count, columns]
    exact shaped.columns
  · rw [count, converted]
    exact shaped.converted
  · rw [count, light]
    exact shaped.light

/-- The blocks of a column that are as high as the world may be kept as sent. -/
theorem Shaped.convert
    {palettes : Array Palette}
    (size : palettes.size = store.sectionCount)
    (cubes : ∀ palette ∈ palettes, palette.SectionCube)
    (pos : ColumnPos) :
    Shaped
      { store with converted := store.converted.insert pos palettes } where
  columns := shaped.columns
  converted := by
    intro other palettes known
    simp only [Std.TreeMap.getElem?_insert] at known
    split at known
    · obtain rfl := Option.some.inj known
      exact ⟨size, cubes⟩
    · exact shaped.converted other palettes known
  light := shaped.light

/-- Light that spans the world may be kept as sent. -/
theorem Shaped.withLight
    {light : ColumnLight}
    (spans : light.Spans store.sectionCount)
    (pos : ColumnPos) :
    (store.withLight pos light).Shaped where
  columns := shaped.columns
  converted := shaped.converted
  light := by
    intro other light known
    simp only [Store.withLight, Std.TreeMap.getElem?_insert] at known
    split at known
    · obtain rfl := Option.some.inj known
      exact spans
    · exact shaped.light other light known

/--
The light of a column as high as the world is computed from neighbors of the
same height.
-/
theorem Shaped.lightInput
    {palettes : Array Palette}
    (size : palettes.size = store.sectionCount)
    (cubes : ∀ palette ∈ palettes, palette.SectionCube)
    (pos : ColumnPos) :
    (store.lightInput pos palettes).Shaped where
  cubes := cubes
  neighborCubes := by
    intro direction sections known
    rw [Store.lightInput, Sides.get_ofFn] at known
    exact (shaped.converted _ sections known).2
  neighborSpans := by
    intro direction light known
    rw [Store.lightInput, Sides.get_ofFn] at known
    rw [Store.lightInput, size]
    exact shaped.light _ light known

end Store

/-! ## Ticks -/

namespace TickState

/-- Converts and sends a column with its light, if it is still loaded. -/
def sendColumnChecked
    (state : TickState)
    (pos : ColumnPos) : Option TickState :=
  let store := state.store
  match store.column? pos with
  | none => some state
  | some column => do
      let target ← store.converter.convertChecked column store.minY
      let palettes := target.palettes
      let (light, cache) ← state.cache.getOrComputeChecked store.table.light
        ((state.converting pos palettes).store.lightInput pos palettes)
      let warnings ← store.converter.warningsChecked column store.minY
      return {
        store := (store.withSent pos palettes light).relightNeighbors pos
        cache := cache
        messages := .column target (.ofLight light) :: state.messages
        warnings := state.warnings ++ warnings
        report :=
          { state.report with columnsSent := state.report.columnsSent + 1 } }

/-- Lights a sent column anew, and sends the light if it came out different. -/
def relightColumnChecked
    (state : TickState)
    (pos : ColumnPos) : Option TickState :=
  match state.store.converted[pos]? with
  | none => some state
  | some palettes =>
      (state.cache.getOrComputeChecked state.store.table.light
        (state.store.lightInput pos palettes)).map (state.relitWith pos)

/-- Sends columns that are due, at most the given number. -/
def sendDueChecked : Nat → TickState → Option TickState
  | 0, state => some state
  | budget + 1, state =>
      match state.store.dirty.pop? with
      | none => some state
      | some (pos, dirty) =>
          ({ state with
              store := { state.store with dirty := dirty } }.sendColumnChecked
                pos).bind
            (sendDueChecked budget)

/-- Lights columns that are due, at most the given number. -/
def relightDueChecked : Nat → TickState → Option TickState
  | 0, state => some state
  | budget + 1, state =>
      match state.store.relight.pop? with
      | none => some state
      | some (pos, relight) =>
          ({ state with
              store :=
                { state.store with relight := relight } }.relightColumnChecked
            pos).bind (relightDueChecked budget)

/-- A store at work is in shape, and so is all that its cache may answer. -/
structure Shaped (state : TickState) : Prop where
  store : state.store.Shaped
  cache : state.cache.Spans state.store.sectionCount

variable {state : TickState} (shaped : state.Shaped)
include shaped

/--
The answer of the cache to a column of the height of the world has that
height.
-/
theorem Shaped.getOrCompute
    {input : LightInput}
    (fed : input.Shaped)
    (size : input.sections.size = state.store.sectionCount) :
    let answer := state.cache.getOrCompute state.store.table.light input
    answer.1.Spans state.store.sectionCount ∧
      answer.2.Spans state.store.sectionCount := by
  have spans := shaped.cache
  rw [← size] at spans ⊢
  exact spans.getOrCompute state.store.table.light fed

theorem Shaped.sentWith
    {pos : ColumnPos}
    {column : Column}
    {answer : ColumnLight × LightCache}
    (size : (state.target column).palettes.size = state.store.sectionCount)
    (cubes : ∀ palette ∈ (state.target column).palettes, palette.SectionCube)
    (light : answer.1.Spans state.store.sectionCount)
    (cache : answer.2.Spans state.store.sectionCount) :
    (state.sentWith pos column answer).Shaped := by
  rw [TickState.sentWith, Store.relightNeighbors_eq]
  constructor
  · exact ((shaped.store.convert size cubes pos).withLight light pos).congr
      rfl rfl rfl rfl
  · exact cache

theorem Shaped.relitWith
    (pos : ColumnPos)
    {answer : ColumnLight × LightCache}
    (light : answer.1.Spans state.store.sectionCount)
    (cache : answer.2.Spans state.store.sectionCount) :
    (state.relitWith pos answer).Shaped := by
  rw [TickState.relitWith]
  split
  · exact ⟨shaped.store.withLight light pos, cache⟩
  · exact ⟨shaped.store, cache⟩

theorem Shaped.flush : state.flush.Shaped where
  store := shaped.store.congr rfl rfl rfl rfl
  cache := shaped.cache

/--
A column is converted and lit within all bounds, and what is kept of it is in
shape.
-/
theorem sendColumnChecked_eq (pos : ColumnPos) :
    state.sendColumnChecked pos = some (state.sendColumn pos) ∧
      (state.sendColumn pos).Shaped := by
  cases loaded : state.store.column? pos with
  | none =>
      rw [sendColumnChecked, loaded, sendColumn_of_not_loaded loaded]
      exact ⟨rfl, shaped⟩
  | some column =>
      have tall :=
        shaped.store.columns pos column (Store.columns_of_column? loaded)
      have size : (state.target column).palettes.size =
          state.store.sectionCount :=
        (state.store.converter.size_palettes_convert column
          state.store.minY).trans tall.size_eq
      have cubes :=
        state.store.converter.cubes_palettes_convert tall.cubic
          state.store.minY
      -- The blocks are stored before the light is computed, so its input is
      -- read off that store.
      have kept := shaped.store.convert size cubes pos
      have input := kept.lightInput size cubes pos
      obtain ⟨answer, after⟩ := shaped.getOrCompute input size
      have target :
          state.store.converter.convertChecked column state.store.minY =
          some (state.target column) :=
            state.store.converter.convertChecked_eq tall _
      have found : state.cache.getOrComputeChecked state.store.table.light
          ((state.converting pos
              (state.target column).palettes).store.lightInput pos
            (state.target column).palettes) =
          some
            (state.cache.getOrCompute (state.sendTask pos column).properties
              (state.sendTask pos column).input) :=
        LightCache.getOrComputeChecked_eq _ state.cache input
      rw [sendColumnChecked, loaded, sendColumn_eq_sentWith loaded]
      constructor
      · simp only [Option.bind_eq_bind, Option.bind_some, target, found,
          state.store.converter.warningsChecked_eq tall]
        rfl
      · exact shaped.sentWith size cubes answer after

/-- A column that was sent is lit anew within all bounds. -/
theorem relightColumnChecked_eq (pos : ColumnPos) :
    state.relightColumnChecked pos = some (state.relightColumn pos) ∧
      (state.relightColumn pos).Shaped := by
  cases converted : state.store.converted[pos]? with
  | none =>
      rw [relightColumnChecked, converted,
        relightColumn_of_not_converted converted]
      exact ⟨rfl, shaped⟩
  | some palettes =>
      obtain ⟨size, cubes⟩ := shaped.store.converted pos palettes converted
      have input := shaped.store.lightInput size cubes pos
      obtain ⟨answer, after⟩ := shaped.getOrCompute input size
      rw [relightColumnChecked, converted,
        relightColumn_eq_relitWith converted]
      dsimp only
      rw [LightCache.getOrComputeChecked_eq _ state.cache input]
      exact ⟨rfl, shaped.relitWith pos answer after⟩

/-- All columns whose turn comes are sent within all bounds. -/
theorem sendDueChecked_eq (budget : Nat) :
    state.sendDueChecked budget = some (state.sendDue budget) ∧
      (state.sendDue budget).Shaped := by
  induction budget generalizing state with
  | zero => exact ⟨rfl, shaped⟩
  | succ budget ih =>
      rw [sendDueChecked, sendDue]
      cases state.store.dirty.pop? with
      | none => exact ⟨rfl, shaped⟩
      | some first =>
          obtain ⟨pos, dirty⟩ := first
          have taken :
              Shaped
                { state with store := { state.store with dirty := dirty } } :=
                  ⟨shaped.store.congr rfl rfl rfl rfl, shaped.cache⟩
          obtain ⟨sent, after⟩ := sendColumnChecked_eq taken pos
          dsimp only at sent ⊢
          rw [sent]
          exact ih after

/-- All columns that are due to be lit anew are lit within all bounds. -/
theorem relightDueChecked_eq (budget : Nat) :
    state.relightDueChecked budget = some (state.relightDue budget) ∧
      (state.relightDue budget).Shaped := by
  induction budget generalizing state with
  | zero => exact ⟨rfl, shaped⟩
  | succ budget ih =>
      rw [relightDueChecked, relightDue]
      cases state.store.relight.pop? with
      | none => exact ⟨rfl, shaped⟩
      | some first =>
          obtain ⟨pos, relight⟩ := first
          have taken :
              Shaped
                { state with
                  store := { state.store with relight := relight } } :=
                    ⟨shaped.store.congr rfl rfl rfl rfl, shaped.cache⟩
          obtain ⟨lit, after⟩ := relightColumnChecked_eq taken pos
          dsimp only at lit ⊢
          rw [lit]
          exact ih after

end TickState

namespace Store

/--
Runs one tick; wanted sections are asked for only once the player has spawned.
-/
def tickChecked
    (store : Store)
    (cache : LightCache)
    (spawned : Bool) : Option (Outcome TickReport × LightCache) := do
  let budgets := store.settings.scheduler
  let start : TickState := ⟨store, cache, [], [], ⟨0, 0, 0, 0⟩⟩
  let sent ← start.sendDueChecked budgets.columnsPerTick
  let lit ← sent.relightDueChecked budgets.lightUpdatesPerTick
  let done := if spawned then lit.flush else lit
  return (⟨done.store, done.report, done.messages.reverse, done.warnings⟩,
    done.cache)

/--
A tick stays within all bounds, and leaves a store in shape with a cache that
fits it.
-/
theorem Shaped.tick
    {store : Store}
    {cache : LightCache}
    (shaped : store.Shaped)
    (spans : cache.Spans store.sectionCount)
    (spawned : Bool) :
    store.tickChecked cache spawned = some (store.tick cache spawned) ∧
      (store.tick cache spawned).1.store.Shaped ∧
      (store.tick cache spawned).2.Spans
        (store.tick cache spawned).1.store.sectionCount := by
  let start : TickState := ⟨store, cache, [], [], ⟨0, 0, 0, 0⟩⟩
  have ready : start.Shaped := ⟨shaped, spans⟩
  obtain ⟨sent, sentShaped⟩ := TickState.sendDueChecked_eq ready
    store.settings.scheduler.columnsPerTick
  obtain ⟨lit, litShaped⟩ := TickState.relightDueChecked_eq sentShaped
    store.settings.scheduler.lightUpdatesPerTick
  refine ⟨?_, ?_⟩
  · rw [tickChecked]
    simp only [Option.bind_eq_bind]
    rw [sent, Option.bind_some, lit]
    rfl
  · cases spawned with
    | false => exact ⟨litShaped.store, litShaped.cache⟩
    | true => exact ⟨litShaped.flush.store, litShaped.flush.cache⟩

/-! ## Runs -/

/--
The store and its cache after operations during which no other store uses the
cache.
-/
def runWith
    (store : Store)
    (cache : LightCache) : List StoreOperation → Store × LightCache
  | [] => (store, cache)
  | operation :: rest =>
      (store.perform (operation.finding cache)).1.runWith
        (store.cacheAfter cache operation) rest

/--
Whatever is asked of a store, changed in it or sent by it next stays within all
bounds: each checked form has the value of the plain one.
-/
structure FaultFree (store : Store) (cache : LightCache) : Prop where
  tick : ∀ spawned,
    store.tickChecked cache spawned = some (store.tick cache spawned)
  changeBlock : ∀ pos layer source,
    store.changeBlockChecked pos layer source =
      some (store.changeBlock pos layer source)
  blockAt : ∀ layer pos,
    store.blockAtChecked layer pos = some (store.blockAt layer pos)
  destinationAt : ∀ pos,
    store.destinationAtChecked pos = some (store.destinationAt pos)
  destinationWarnings : ∀ pos,
    store.destinationWarningsChecked pos =
      some (store.destinationWarnings pos)
  isUnseen : ∀ pos, store.isUnseenChecked pos = some (store.isUnseen pos)

theorem Shaped.faultFree
    {store : Store}
    {cache : LightCache}
    (shaped : store.Shaped)
    (spans : cache.Spans store.sectionCount) :
    store.FaultFree cache where
  tick := fun spawned => (shaped.tick spans spawned).1
  changeBlock := shaped.columns.changeBlockChecked_eq
  blockAt := shaped.columns.blockAtChecked_eq
  destinationAt := shaped.columns.destinationAtChecked_eq
  destinationWarnings := shaped.columns.destinationWarningsChecked_eq
  isUnseen := shaped.columns.isUnseenChecked_eq

/-- Each operation keeps a store and its own cache in shape. -/
theorem Shaped.performWith
    {store : Store}
    {cache : LightCache}
    (shaped : store.Shaped)
    (spans : cache.Spans store.sectionCount)
    {operation : StoreOperation}
    (delivers : operation.DeliversWellFormed) :
    (store.perform (operation.finding cache)).1.Shaped ∧
      (store.cacheAfter cache operation).Spans
        (store.perform (operation.finding cache)).1.sectionCount := by
  cases operation with
  | tick found spawned => exact (shaped.tick spans spawned).2
  | _ =>
      refine ⟨shaped.perform delivers (fun _ _ same => nomatch same), ?_⟩
      rwa [(store.sameTables_perform _).sectionCount_eq]

theorem Shaped.runWith
    {operations : List StoreOperation}
    (delivers : ∀ operation ∈ operations, operation.DeliversWellFormed)
    {store : Store}
    {cache : LightCache}
    (shaped : store.Shaped)
    (spans : cache.Spans store.sectionCount) :
    (store.runWith cache operations).1.Shaped ∧
      (store.runWith cache operations).2.Spans
        (store.runWith cache operations).1.sectionCount := by
  induction operations generalizing store cache with
  | nil => exact ⟨shaped, spans⟩
  | cons operation rest ih =>
      obtain ⟨after, afterSpans⟩ :=
        shaped.performWith spans (delivers operation List.mem_cons_self)
      exact ih
        (fun later member => delivers later (List.mem_cons_of_mem _ member))
        after afterSpans

/--
A store that was reached by operations from one without columns, with a cache
of its own, is in shape, whatever the bounds of its world: its sections have
the right shape and their logs lie within them, those that await their content
have no layers, its columns and the blocks sent of them are as high as the
world, and the light sent has two slabs more.  So none of what may come next
makes an access past an end.
-/
theorem shaped_and_faultFree_runWith
    (settings : Settings)
    (converter : Converter)
    (capacity : Nat)
    (workers : Option WorkerPool)
    {operations : List StoreOperation}
    (delivers : ∀ operation ∈ operations, operation.DeliversWellFormed) :
    let reached :=
      (create settings converter).runWith (.create capacity workers)
        operations
    reached.1.Shaped ∧ reached.1.FaultFree reached.2 := by
  obtain ⟨shaped, spans⟩ :=
    (shaped_create settings converter).runWith delivers
      (LightCache.spans_create capacity workers _)
  exact ⟨shaped, shaped.faultFree spans⟩

/--
A section is changed while it is awaited; one of the wrong shape comes, then
the right one.
-/
def awaitedRun : List StoreOperation :=
  [.createColumn ⟨0, 0⟩ 0, .want ⟨0, 0, 0⟩, .tick (.create 0 none) true,
    .changeBlock ⟨1, 2, 3⟩ 1 5000,
    .mergeSection ⟨0, 0, 0⟩ (.ofLayers #[.biomes 5000] none) [],
    .want ⟨0, 0, 0⟩, .tick (.create 0 none) true,
    .mergeSection ⟨0, 0, 0⟩ (.filled 5000) [], .tick (.create 0 none) true]

theorem shaped_and_faultFree_awaitedRun :
    (∀ operation ∈ awaitedRun, operation.DeliversWellFormed) ∧
      let reached :=
        (create .standard bareConverter).runWith (.create 64 none) awaitedRun
      reached.1.Shaped ∧ reached.1.FaultFree reached.2 := by
  have delivers : ∀ operation ∈ awaitedRun, operation.DeliversWellFormed := by
    have formed (bits : Nat) : (Palette.filled bits 5000).WellFormed :=
      Palette.wellFormed_filled bits 5000
    simp [awaitedRun, StoreOperation.DeliversWellFormed, Section.ofLayers,
      Section.filled, Palette.blocks, Palette.biomes, formed]
  exact ⟨delivers,
    shaped_and_faultFree_runWith .standard bareConverter 64 none delivers⟩

end Store

end VoxelRelay
