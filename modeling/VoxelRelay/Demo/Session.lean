import VoxelRelay.Demo.Journal
import VoxelRelay.Demo.Terrain
import VoxelRelay.Log.Filter

/-!
# Sessions

A session runs a store against the made-up world: every column of the window
is announced, its sections are asked for and delivered tick by tick, and
halfway a block is placed.  What it does goes to the log.
-/

namespace VoxelRelay

/-- A session under way. -/
structure Session where
  store : Store
  cache : LightCache
  totals : TickReport
  merged : Nat
  rejected : Nat
  filter : Log.Filter
  /-- The lines of the log so far, the last one first. -/
  lines : List Log.Line

namespace Session

/-- The seed of the made-up world. -/
def seed : UInt64 := 0x5eed

/-- Writes lines to the log, as far as its filter shows them. -/
def write (session : Session) (lines : List Log.Line) : Session :=
  { session with
    lines := (lines.filter session.filter.admits).reverse ++ session.lines }

/-- The light cache that settings ask for, on a machine with some processors. -/
def cacheOf (light : LightSettings) (processors : Nat) : LightCache :=
  .create light.cacheEntries
    (if light.workerThreads = 0 then none
    else some (.create light.workerThreads processors))

/-- A session before its first column. -/
def start
    (settings : Settings)
    (table : MappingTable)
    (processors : Nat) : Session :=
  let cache := cacheOf settings.light processors
  let session : Session :=
    { store := .create settings ⟨table, table⟩
      cache := cache
      totals := ⟨0, 0, 0, 0⟩
      merged := 0
      rejected := 0
      filter := .parse (Log.Filter.ofSettings (some settings))
      lines := [] }
  session.write
    (cache.workers.toList.map Journal.workersStarted ++
      [Journal.cacheReady cache])

/-! ## The window -/

/-- The coordinates from the negative of a radius up to the radius. -/
def reach (radius : UInt32) : List Int32 :=
  let far := radius.toInt32
  let near := (-far).toInt
  (List.range (far.toInt + 1 - near).toNat).map fun step : Nat =>
    .ofInt (near + (step : Int))

/--
Announces a column of which no section is declared, and asks for all of its
sections.
-/
def announce (store : Store) (pos : ColumnPos) : Store :=
  let created := store.createColumn pos 0
  if created.value then
    let bottom := sectionCoordinate store.minY
    created.store.wantRange pos bottom (bottom + .ofNat store.sectionCount)
  else created.store

/-- Announces every column of the window and puts the player at the spawn. -/
def announceAll (session : Session) : Session :=
  let span := reach session.store.settings.view.radius
  let store := span.foldl (fun store x =>
    span.foldl (fun store z => announce store ⟨x, z⟩) store) session.store
  let store := store.setPlayer (.containing 8 8)
  { session with store := store }.write [Journal.started store]

/-! ## Ticks -/

/-- Delivers a section that was asked for. -/
def deliver (session : Session) (pos : SectionPos) : Session :=
  let (content, entities) := Terrain.sectionAt seed pos
  let outcome := session.store.mergeSection pos content entities
  match outcome.value with
  | .ok _ =>
      { session with
        store := outcome.store, merged := session.merged + 1 }.write
        [Journal.merged session.store pos]
  | .error _ =>
      { session with
        store := outcome.store, rejected := session.rejected + 1 }

/-- Places the block above the spawn. -/
def placeRoof (session : Session) : Session :=
  let (pos, id) := Terrain.roof
  let outcome := session.store.changeBlock pos 0 id
  let store :=
    match outcome.value with
    | .applied .. => outcome.store.markDirty pos.column
    | _ => outcome.store
  { session with store := store }.write [Journal.roof pos outcome.value]

/-- Adds what one tick did to what the ticks before it did. -/
def addReport (totals report : TickReport) : TickReport :=
  ⟨totals.columnsSent + report.columnsSent,
    totals.lightUpdatesSent + report.lightUpdatesSent,
    totals.relightsUnchanged + report.relightsUnchanged,
    totals.requestBatches + report.requestBatches⟩

/-- Whether the finer lines of a tick may be shown. -/
def isDetailed (session : Session) : Bool :=
  [Journal.tickSource, Journal.cacheSource].any
    (session.filter.mayAdmit .trace)

/--
Runs one tick and delivers what it asks for; the player has spawned from the
second tick on.
-/
def tick (session : Session) (number : Nat) : Session :=
  let (outcome, cache) := session.store.tick session.cache (0 < number)
  let working :=
    if session.isDetailed then Journal.working session.store
      session.cache else []
  let ticked :=
    { session with
      store := outcome.store
      cache := cache
      totals := addReport session.totals outcome.value }.write
        (working ++ Journal.ticked outcome)
  let wanted := outcome.messages.flatMap fun
    | .request request => request.positions
    | _ => []
  wanted.foldl deliver ticked

/-- Runs a number of ticks, in the middle one of which the block is placed. -/
def runTicks (session : Session) (ticks : Nat) : Session :=
  Nat.fold ticks (fun number _ session =>
    let ticked := session.tick number
    if number = ticks / 2 then ticked.placeRoof else ticked) session

/-- Runs a whole session and hands out its log. -/
def run
    (settings : Settings)
    (table : MappingTable)
    (processors ticks : Nat) : List Log.Line :=
  let done := ((start settings table processors).announceAll).runTicks ticks
  (done.write
    [Journal.finished ticks done.totals done.merged done.rejected
      done.cache.size]).lines
    |>.reverse

end Session

end VoxelRelay
