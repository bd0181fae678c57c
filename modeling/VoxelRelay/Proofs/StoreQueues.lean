import VoxelRelay.Proofs.QueueTurns
import VoxelRelay.Proofs.StoreFrames
import VoxelRelay.Proofs.StoreRuns
import VoxelRelay.Proofs.TickSteps

/-!
# The queues of a store are in order

A store has two queues of columns, of those that are due to be sent and of those
that are due to be lit anew.  It only pushes, drops and takes columns, so that
in every store that may be reached both queues show their waiting columns in
turn.  The owner of a store may also change loaded columns without asking the
store, which does not touch the queues.
-/

namespace VoxelRelay.Store

/-- The stores that may be reached from one without columns. -/
inductive Reachable
    (settings : Settings)
    (converter : Converter) : Store → Prop where
  | create : Reachable settings converter (create settings converter)
  /-- Something is asked of the store. -/
  | perform {store : Store} (operation : StoreOperation) :
      Reachable settings converter store →
      Reachable settings converter (store.perform operation).1
  /-- A loaded column within the window is changed in whatever way. -/
  | modifyColumn {store : Store} (pos : ColumnPos)
      (change : Column → Column) :
      Reachable settings converter store →
        Reachable settings converter (store.modifyColumn pos change)

theorem reachable_run
    (settings : Settings)
    (converter : Converter)
    (operations : List StoreOperation) :
    Reachable settings converter
      ((create settings converter).run operations) :=
  run_induction (Reachable settings converter)
    (fun _ operation reachable => reachable.perform operation) .create
    operations

/-- Both queues of a store show their waiting columns in turn. -/
structure InOrder (store : Store) : Prop where
  dirty : store.dirty.Ticketed
  relight : store.relight.Ticketed

theorem inOrder_create
    (settings : Settings)
    (converter : Converter) :
    (create settings converter).InOrder :=
  ⟨ColumnQueue.ticketed_empty, ColumnQueue.ticketed_empty⟩

variable {store : Store}

section

variable (inOrder : store.InOrder)
include inOrder

/-- Only the queues matter. -/
theorem InOrder.congr
    {other : Store}
    (dirty : other.dirty = store.dirty)
    (relight : other.relight = store.relight) :
    other.InOrder := by
  constructor
  · rw [dirty]
    exact inOrder.dirty
  · rw [relight]
    exact inOrder.relight

/-! ## Columns coming, going and changing -/

theorem InOrder.forgetDerived (pos : ColumnPos) :
    (store.forgetDerived pos).InOrder :=
  ⟨inOrder.dirty.remove pos, inOrder.relight.remove pos⟩

theorem InOrder.createColumn
    (pos : ColumnPos)
    (declared : Nat) :
    (store.createColumn pos declared).store.InOrder := by
  have fresh := inOrder.forgetDerived pos
  unfold Store.createColumn
  split
  · simp only
    split
    · exact fresh.congr rfl rfl
    · exact fresh.congr rfl rfl
  · exact inOrder

theorem InOrder.unloadColumn (pos : ColumnPos) :
    (store.unloadColumn pos).store.InOrder := by
  unfold Store.unloadColumn
  split
  · exact inOrder
  · exact (inOrder.forgetDerived pos).congr rfl rfl

theorem InOrder.unloadAll (positions : List ColumnPos) :
    (store.unloadAll positions).1.InOrder :=
  unloadAll_induction (fun store _ => store.InOrder)
    (fun _ _ pos before => before.unloadColumn pos) inOrder positions

theorem InOrder.setView (view : ViewWindow) :
    InOrder { store with view := view } :=
  inOrder.congr rfl rfl

theorem InOrder.markDirty (pos : ColumnPos) : (store.markDirty pos).InOrder :=
  ⟨inOrder.dirty.push pos, inOrder.relight⟩

theorem InOrder.modifyColumn
    (pos : ColumnPos)
    (change : Column → Column) :
    (store.modifyColumn pos change).InOrder := by
  rw [modifyColumn_eq]
  exact inOrder.congr rfl rfl

theorem InOrder.changeBlock
    (pos : BlockPos)
    (layer : Nat)
    (source : UInt32) :
    (store.changeBlock pos layer source).store.InOrder := by
  rw [changeBlock_eq]
  exact inOrder.congr rfl rfl

theorem InOrder.mergeSection
    (pos : SectionPos)
    (content : Section)
    (entities : List SourceEntity) :
    (store.mergeSection pos content entities).store.InOrder := by
  unfold Store.mergeSection
  simp only
  split
  · exact inOrder.congr rfl rfl
  · exact (inOrder.markDirty pos.column).congr rfl rfl

/-! ## Ticks -/

theorem InOrder.relightNeighbors (pos : ColumnPos) :
    (store.relightNeighbors pos).InOrder :=
  relightNeighbors_induction InOrder
    (fun _ neighbor _ before => ⟨before.dirty, before.relight.push neighbor⟩)
    inOrder pos

end

section

variable {state : TickState} (inOrder : state.store.InOrder)
include inOrder

theorem InOrder.sendColumn (pos : ColumnPos) :
    (state.sendColumn pos).store.InOrder := by
  cases loaded : state.store.column? pos with
  | none =>
      rw [TickState.sendColumn_of_not_loaded loaded]
      exact inOrder
  | some column =>
      rw [(TickState.sendColumn_of_loaded loaded).1]
      apply InOrder.relightNeighbors
      exact inOrder.congr rfl rfl

theorem InOrder.relightColumn (pos : ColumnPos) :
    (state.relightColumn pos).store.InOrder := by
  obtain ⟨light, relit, -⟩ := state.exists_light_relightColumn pos
  rw [relit]
  exact inOrder.congr rfl rfl

theorem InOrder.sendDue (budget : Nat) :
    (state.sendDue budget).store.InOrder := by
  apply TickState.sendDue_induction (·.store.InOrder) _ inOrder
  intro state pos dirty taken inOrder
  have remaining : InOrder { state.store with dirty := dirty } :=
    ⟨inOrder.dirty.pop? taken, inOrder.relight⟩
  exact remaining.sendColumn pos

theorem InOrder.relightDue (budget : Nat) :
    (state.relightDue budget).store.InOrder := by
  apply TickState.relightDue_induction (·.store.InOrder) _ inOrder
  intro state pos relight taken inOrder
  have remaining : InOrder { state.store with relight := relight } :=
    ⟨inOrder.dirty, inOrder.relight.pop? taken⟩
  exact remaining.relightColumn pos

end

theorem InOrder.tick
    (inOrder : store.InOrder)
    (cache : LightCache)
    (spawned : Bool) :
    (store.tick cache spawned).1.store.InOrder := by
  let start : TickState := ⟨store, cache, [], [], ⟨0, 0, 0, 0⟩⟩
  have sent :
      (start.sendDue store.settings.scheduler.columnsPerTick).store.InOrder :=
    InOrder.sendDue inOrder _
  have lit := sent.relightDue store.settings.scheduler.lightUpdatesPerTick
  unfold Store.tick
  simp only
  split
  · exact lit.congr rfl rfl
  · exact lit

/-! ## Runs -/

theorem InOrder.perform
    (inOrder : store.InOrder)
    (operation : StoreOperation) :
    (store.perform operation).1.InOrder := by
  cases operation with
  | createColumn pos declared => exact inOrder.createColumn pos declared
  | unloadColumn pos => exact inOrder.unloadColumn pos
  | setCenter center => exact (inOrder.setView _).unloadAll _
  | setRadius radius => exact (inOrder.setView _).unloadAll _
  | setPlayer player => exact inOrder.setView _
  | markDirty pos => exact inOrder.markDirty pos
  | want pos =>
      rw [Store.perform, want_eq]
      exact inOrder.congr rfl rfl
  | wantRange pos first last =>
      rw [Store.perform, wantRange_eq]
      exact inOrder.congr rfl rfl
  | mergeSection pos content entities =>
      exact inOrder.mergeSection pos content entities
  | changeBlock pos layer source => exact inOrder.changeBlock pos layer source
  | addEntity entity => exact inOrder.modifyColumn _ _
  | tick cache spawned => exact inOrder.tick cache spawned

/--
Whatever is asked of a store, its queues show their waiting columns in turn.
-/
theorem Reachable.inOrder
    {settings : Settings}
    {converter : Converter}
    (reachable : Reachable settings converter store) :
    store.InOrder := by
  induction reachable with
  | create => exact inOrder_create settings converter
  | perform operation _ inOrder => exact inOrder.perform operation
  | modifyColumn pos change _ inOrder => exact inOrder.modifyColumn pos change

end VoxelRelay.Store
