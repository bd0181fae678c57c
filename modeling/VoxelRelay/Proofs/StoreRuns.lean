import VoxelRelay.Store.Change
import VoxelRelay.Store.Merge
import VoxelRelay.Proofs.StoreLoops

/-!
# Runs of a store

Everything that happens to a store is one of a few operations, and a store is
reached by a list of them.  What the operations keep, one at a time, therefore
holds of every store that was started without columns: this is the induction
`run_induction`.  `history_induction` is the same for what ties a store to the
messages it has sent.

A light cache may be shared, so that a tick can find it in any state; it is
part of the operation.
-/

namespace VoxelRelay

/-- What can happen to a store. -/
inductive StoreOperation where
  | createColumn (pos : ColumnPos) (declared : Nat)
  | unloadColumn (pos : ColumnPos)
  | setCenter (center : ColumnPos)
  | setRadius (radius : UInt32)
  | setPlayer (player : ColumnPos)
  | markDirty (pos : ColumnPos)
  | want (pos : SectionPos)
  | wantRange (pos : ColumnPos) (first last : Int32)
  | mergeSection (pos : SectionPos) (content : Section)
      (entities : List SourceEntity)
  | changeBlock (pos : BlockPos) (layer : Nat) (source : UInt32)
  | addEntity (entity : SourceEntity)
  | tick (cache : LightCache) (spawned : Bool)

namespace Store

/-- The store after an operation, with what was sent. -/
def perform (store : Store) : StoreOperation → Store × List Message
  | .createColumn pos declared =>
      let outcome := store.createColumn pos declared
      (outcome.store, outcome.messages)
  | .unloadColumn pos =>
      let outcome := store.unloadColumn pos
      (outcome.store, outcome.messages)
  | .setCenter center =>
      let outcome := store.setCenter center
      (outcome.store, outcome.messages)
  | .setRadius radius =>
      let outcome := store.setRadius radius
      (outcome.store, outcome.messages)
  | .setPlayer player => (store.setPlayer player, [])
  | .markDirty pos => (store.markDirty pos, [])
  | .want pos => ((store.want pos).1, [])
  | .wantRange pos first last => (store.wantRange pos first last, [])
  | .mergeSection pos content entities =>
      let outcome := store.mergeSection pos content entities
      (outcome.store, outcome.messages)
  | .changeBlock pos layer source =>
      let outcome := store.changeBlock pos layer source
      (outcome.store, outcome.messages)
  | .addEntity entity => (store.addEntity entity, [])
  | .tick cache spawned =>
      let outcome := (store.tick cache spawned).1
      (outcome.store, outcome.messages)

/-- The store after a list of operations. -/
def run (store : Store) (operations : List StoreOperation) : Store :=
  operations.foldl (fun store operation => (store.perform operation).1) store

/-- All messages that a store sends during a list of operations, in order. -/
def history (store : Store) : List StoreOperation → List Message
  | [] => []
  | operation :: rest =>
      (store.perform operation).2 ++ (store.perform operation).1.history rest

theorem run_append
    (store : Store)
    (first second : List StoreOperation) :
    store.run (first ++ second) = (store.run first).run second :=
  List.foldl_append

theorem history_append
    (store : Store)
    (first second : List StoreOperation) :
    store.history (first ++ second) =
      store.history first ++ (store.run first).history second := by
  induction first generalizing store with
  | nil => rfl
  | cons operation rest ih =>
      rw [List.cons_append, history, history, ih, List.append_assoc]
      rfl

/-- What every operation keeps holds after every run. -/
theorem run_induction
    (holds : Store → Prop)
    (step : ∀ store operation, holds store →
      holds (store.perform operation).1)
    {store : Store}
    (start : holds store)
    (operations : List StoreOperation) :
    holds (store.run operations) := by
  induction operations generalizing store with
  | nil => exact start
  | cons operation rest ih => exact ih (step store operation start)

/--
What every operation keeps of a store and the messages sent so far holds after
every run, of the store and all messages sent until then.
-/
theorem history_induction
    (holds : Store → List Message → Prop)
    (step : ∀ store messages operation, holds store messages →
      holds (store.perform operation).1
        (messages ++ (store.perform operation).2))
    {store : Store}
    {messages : List Message}
    (start : holds store messages)
    (operations : List StoreOperation) :
    holds (store.run operations) (messages ++ store.history operations) := by
  induction operations generalizing store messages with
  | nil => rwa [history, List.append_nil]
  | cons operation rest ih =>
      rw [history, ← List.append_assoc]
      exact ih (step store messages operation start)

end Store

end VoxelRelay
