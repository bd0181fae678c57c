import VoxelRelay.Light.Cache
import VoxelRelay.Store.Window

/-!
# Ticks

In each tick a store converts and sends some of the columns that are due,
lights some of the neighbors of columns sent anew, and, once the player has
spawned, asks for the sections that are wanted.  The light cache may be shared
by several stores and is handed through.
-/

namespace VoxelRelay

/-- What one tick did. -/
structure TickReport where
  columnsSent : Nat
  lightUpdatesSent : Nat
  /-- Columns lit anew whose light came out as it had been sent. -/
  relightsUnchanged : Nat
  requestBatches : Nat
deriving DecidableEq, Repr, Inhabited

/-- Whether a tick did nothing. -/
def TickReport.isIdle (report : TickReport) : Bool := report == ⟨0, 0, 0, 0⟩

/-- A store at work, with the light cache and what it has sent in this tick. -/
structure TickState where
  store : Store
  cache : LightCache
  /-- The messages sent so far, the last one first. -/
  messages : List Message
  warnings : List Warning
  report : TickReport

namespace Store

/-- What the light of a column is computed from. -/
def lightInput
    (store : Store)
    (pos : ColumnPos)
    (sections : Array Palette) : LightInput where
  sections := sections
  neighborSections :=
    .ofFn fun direction => store.converted[pos.neighbor direction]?
  neighborLight := .ofFn fun direction => store.light[pos.neighbor direction]?

/-- Makes the neighbors of a column that were sent due to be lit anew. -/
def relightNeighbors (store : Store) (pos : ColumnPos) : Store :=
  pos.neighbors.foldl (fun store neighbor =>
    if store.sent.contains neighbor && store.converted.contains neighbor then
      { store with relight := store.relight.push neighbor }
    else store) store

/-- The wanted sections within the window, in order. -/
def wantedInside (store : Store) : List SectionPos :=
  store.wanted.toList.filter fun pos => store.view.loads pos.column

/-- Cuts a list into pieces of a size, the last one perhaps shorter. -/
def pieces
    {α : Type}
    (size : Nat) : Nat → List α → List (List α)
  | 0, _ => []
  | _, [] => []
  | steps + 1, list => list.take size :: pieces size steps (list.drop size)

/-- The requests for the wanted sections within the window. -/
def requests (store : Store) : List SectionRequest :=
  let base : SectionPos := ⟨store.view.center.x, 0, store.view.center.z⟩
  let inside := store.wantedInside
  (pieces (max 1 store.settings.scheduler.requestBatchSize) inside.length
    inside).map
    (.ofPositions base)

/--
Asks for the wanted sections within the window, and drops the wishes outside
it.
-/
def flush (store : Store) : Store × List SectionRequest :=
  ({ store with
      wanted := ∅
      inFlight := store.wantedInside.foldl (·.insert ·) store.inFlight },
    store.requests)

end Store

namespace TickState

/-- Converts and sends a column with its light, if it is still loaded. -/
def sendColumn (state : TickState) (pos : ColumnPos) : TickState :=
  let store := state.store
  match store.column? pos with
  | none => state
  | some column =>
      let target := store.converter.convert column store.minY
      let palettes := target.palettes
      let store :=
        { store with converted := store.converted.insert pos palettes }
      let (light, cache) :=
        state.cache.getOrCompute store.table.light
          (store.lightInput pos palettes)
      let store := { store with
        light := store.light.insert pos light
        sent := store.sent.insert pos }
      { store := store.relightNeighbors pos
        cache := cache
        messages := .column target (.ofLight light) :: state.messages
        warnings :=
          state.warnings ++ state.store.converter.warnings column store.minY
        report :=
          { state.report with columnsSent := state.report.columnsSent + 1 } }

/-- Lights a sent column anew, and sends the light if it came out different. -/
def relightColumn (state : TickState) (pos : ColumnPos) : TickState :=
  let store := state.store
  match store.converted[pos]? with
  | none => state
  | some sections =>
      let (light, cache) :=
        state.cache.getOrCompute store.table.light
          (store.lightInput pos sections)
      let changed :=
        match store.light[pos]? with
        | some old => light.differs old
        | none => true
      if changed then
        { state with
          store := { store with light := store.light.insert pos light }
          cache := cache
          messages := .light pos (.ofLight light) :: state.messages
          report :=
            { state.report with
              lightUpdatesSent := state.report.lightUpdatesSent + 1 } }
      else
        { state with
          cache := cache
          report :=
            { state.report with
              relightsUnchanged := state.report.relightsUnchanged + 1 } }

/-- Sends columns that are due, at most the given number. -/
def sendDue : Nat → TickState → TickState
  | 0, state => state
  | budget + 1, state =>
      match state.store.dirty.pop? with
      | none => state
      | some (pos, dirty) =>
          sendDue budget
            ({ state with
                store := { state.store with dirty := dirty } }.sendColumn pos)

/-- Lights columns that are due, at most the given number. -/
def relightDue : Nat → TickState → TickState
  | 0, state => state
  | budget + 1, state =>
      match state.store.relight.pop? with
      | none => state
      | some (pos, relight) =>
          relightDue budget
            ({ state with
                store :=
                  { state.store with relight := relight } }.relightColumn pos)

/-- Sends the requests for wanted sections. -/
def flush (state : TickState) : TickState :=
  let (store, requests) := state.store.flush
  { state with
    store := store
    messages := (requests.map Message.request).reverse ++ state.messages
    report := { state.report with requestBatches := requests.length } }

end TickState

/--
Runs one tick; wanted sections are asked for only once the player has spawned.
-/
def Store.tick
    (store : Store)
    (cache : LightCache)
    (spawned : Bool) : Outcome TickReport × LightCache :=
  let budgets := store.settings.scheduler
  let start : TickState := ⟨store, cache, [], [], ⟨0, 0, 0, 0⟩⟩
  let lit :=
    (start.sendDue budgets.columnsPerTick).relightDue
      budgets.lightUpdatesPerTick
  let done := if spawned then lit.flush else lit
  (⟨done.store, done.report, done.messages.reverse, done.warnings⟩,
    done.cache)

end VoxelRelay
