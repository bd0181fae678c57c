import VoxelRelay.Log.Line
import VoxelRelay.Store.Change
import VoxelRelay.Store.Merge
import VoxelRelay.Store.Tick

/-!
# What a session says about itself

The lines that a session writes to the log: its own ones, and the finer ones
about the light cache and the ticks of the store.  The finer lines of a tick
are found by going through its steps.
-/

namespace VoxelRelay

/-- A column position as the log shows it. -/
def ColumnPos.describe (pos : ColumnPos) : String :=
  "ChunkPos \x7b x: " ++ toString pos.x.toInt ++ ", z: " ++
    toString pos.z.toInt ++ " \x7d"

/-- A block position as the log shows it. -/
def BlockPos.describe (pos : BlockPos) : String :=
  "BlockPos \x7b x: " ++ toString pos.x.toInt ++ ", y: " ++
    toString pos.y.toInt ++ ", z: " ++
    toString pos.z.toInt ++ " \x7d"

namespace Journal

open Log

/-- The part of the program that runs sessions. -/
def demoSource : String := "voxbridge_demo"

/-- The part of the program that holds columns. -/
def storeSource : String := "voxbridge_world::store"

/-- The part of the program that runs ticks. -/
def tickSource : String := "voxbridge_world::scheduler"

/-- The part of the program that keeps light. -/
def cacheSource : String := "voxbridge_lighting::cache"

/-- The part of the program that runs workers. -/
def workerSource : String := "voxbridge_lighting::workers"

/-- A line with numbers. -/
def counts
    (level : Level)
    (source message : String)
    (fields : List (String × Nat)) : Line :=
  ⟨level, source, message, fields.map fun (name, value) =>
    (name, toString value)⟩

/-! ## Lines of a session -/

/-- The line about workers that have started. -/
def workersStarted (pool : WorkerPool) : Line :=
  counts .debug workerSource "light workers started"
    [("threads", pool.workers)]

/-- The line about the light cache. -/
def cacheReady (cache : LightCache) : Line :=
  counts .info demoSource "Light cache ready"
    [("cache_entries", cache.capacity),
    ("workers", (cache.workers.map (·.workers)).getD 0)]

/-- The line about the columns announced. -/
def started (store : Store) : Line :=
  counts .info demoSource "Session started"
    [("columns", store.columns.size), ("requests", store.wanted.size)]

/-- The line about the block that was placed, or why it was not. -/
def roof (pos : BlockPos) : BlockChange → Line
  | .applied destination _ => ⟨.info, demoSource, "Roof placed",
      [("pos", pos.describe), ("destination_id", toString destination.toNat)]⟩
  | .unloaded => refused "Unloaded"
  | .deferred => refused "Deferred"
  | .invalidLayer layer => refused ("InvalidLayer(" ++ toString layer ++ ")")
where
  /-- The line about a block that was not placed. -/
  refused (cause : String) : Line :=
    ⟨.info, demoSource, "Roof edit not applied",
      [("pos", pos.describe), ("other", cause)]⟩

/-- The line about what a session did in all. -/
def finished
    (ticks : Nat)
    (totals : TickReport)
    (merged rejected cached : Nat) : Line :=
  counts .info demoSource "Session finished"
    [("ticks", ticks), ("chunks_sent", totals.columnsSent),
    ("light_updates", totals.lightUpdatesSent),
    ("unchanged_relights", totals.relightsUnchanged),
    ("batches", totals.requestBatches), ("merged", merged),
    ("rejected", rejected), ("cached_light", cached)]

/-- The line about a section that has arrived in a store. -/
def merged (store : Store) (pos : SectionPos) : Line :=
  let replayed := ((store.section? pos).bind (·.pending)).elim 0 (·.size)
  ⟨.trace, storeSource, "sub chunk merged",
    [("pos", pos.describe), ("replayed", toString replayed)]⟩

/-! ## Lines of a tick -/

/-- The lines about looking up light under a key. -/
def lookUp (cache : LightCache) (key : UInt64) : List Line :=
  if (cache.get? key).isSome then
    [counts .trace cacheSource "light cache hit" [("key", key.toNat)]]
  else if 0 < cache.capacity ∧ cache.capacity ≤ cache.size then
    let kept := cache.evict.size
    [counts .trace cacheSource "light cache eviction"
      [("evicted", cache.size - kept), ("remaining", kept)]]
  else []

/--
The key under which the light of a column is looked up, once its blocks are
converted.
-/
def keyOf (store : Store) (pos : ColumnPos) : UInt64 :=
  (store.lightInput pos (store.converted.getD pos #[])).key

/-- The lines about the columns that are due to be sent. -/
def sending : Nat → TickState → List Line
  | 0, _ => []
  | budget + 1, state =>
      match state.store.dirty.pop? with
      | none => []
      | some (pos, dirty) =>
          let before :=
            { state with store := { state.store with dirty := dirty } }
          let after := before.sendColumn pos
          let lines :=
            if before.store.isLoaded pos then
              lookUp before.cache (keyOf after.store pos) ++
                [⟨.trace, tickSource, "chunk sent", [("pos", pos.describe)]⟩]
            else []
          lines ++ sending budget after

/-- The lines about the columns that are due to be lit anew. -/
def relighting : Nat → TickState → List Line
  | 0, _ => []
  | budget + 1, state =>
      match state.store.relight.pop? with
      | none => []
      | some (pos, relight) =>
          let before :=
            { state with store := { state.store with relight := relight } }
          let lines :=
            if before.store.converted.contains pos then
              lookUp before.cache (keyOf before.store pos)
            else []
          lines ++ relighting budget (before.relightColumn pos)

/-- The lines that a tick writes while it works. -/
def working (store : Store) (cache : LightCache) : List Line :=
  let budgets := store.settings.scheduler
  let start : TickState := ⟨store, cache, [], [], ⟨0, 0, 0, 0⟩⟩
  sending budgets.columnsPerTick start ++
    relighting budgets.lightUpdatesPerTick
      (start.sendDue budgets.columnsPerTick)

/-- The line that a tick writes when it has done anything. -/
def ticked (outcome : Outcome TickReport) : List Line :=
  let report := outcome.value
  if report.isIdle then []
  else
    [counts .debug tickSource "chunk tick"
      [("chunks_sent", report.columnsSent),
      ("light_updates", report.lightUpdatesSent),
      ("unchanged", report.relightsUnchanged),
      ("batches", report.requestBatches), ("dirty", outcome.store.dirty.size),
      ("relight", outcome.store.relight.size)]]

end Journal

end VoxelRelay
