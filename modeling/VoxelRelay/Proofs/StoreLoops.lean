import VoxelRelay.Store.Tick

/-!
# What the loops of a store keep

Some operations of a store go through several columns: those that are unloaded
together, the neighbors of a column that was sent, and those that are due.  What
one round of such a loop keeps, the loop keeps, so that about every loop it is
enough to know what happens to a single column.
-/

namespace VoxelRelay

namespace Store

/--
What unloading one column keeps, of the store and what was told, unloading
several keeps.
-/
theorem unloadAll_induction
    (holds : Store → List Message → Prop)
    (step : ∀ store told pos, holds store told →
      holds (store.unloadColumn pos).store
        (told ++ (store.unloadColumn pos).messages))
    {store : Store}
    (start : holds store [])
    (positions : List ColumnPos) :
    holds (store.unloadAll positions).1 (store.unloadAll positions).2 := by
  unfold unloadAll
  generalize ([] : List Message) = told at start
  induction positions generalizing store told with
  | nil => exact start
  | cons pos rest ih => exact ih _ (step store told pos start)

/--
What making one sent column due to be lit anew keeps, making the neighbors due
keeps.
-/
theorem relightNeighbors_induction
    (holds : Store → Prop)
    (step : ∀ (store : Store) (neighbor : ColumnPos), neighbor ∈ store.sent →
      holds store →
      holds { store with relight := store.relight.push neighbor })
    {store : Store}
    (start : holds store)
    (pos : ColumnPos) :
    holds (store.relightNeighbors pos) := by
  unfold relightNeighbors
  generalize pos.neighbors = neighbors
  induction neighbors generalizing store with
  | nil => exact start
  | cons neighbor rest ih =>
      rw [List.foldl_cons]
      apply ih
      split
      · next due =>
            exact step store neighbor (Bool.and_eq_true_iff.1 due).1 start
      · exact start

end Store

namespace TickState

/--
What sending the column whose turn it is keeps, sending due columns keeps.
-/
theorem sendDue_induction
    (holds : TickState → Prop)
    (step : ∀ (state : TickState) (pos : ColumnPos) (dirty : ColumnQueue),
      state.store.dirty.pop? = some (pos, dirty) → holds state →
      holds
        ({ state with
            store := { state.store with dirty := dirty } }.sendColumn pos))
    {state : TickState}
    (start : holds state)
    (budget : Nat) :
    holds (state.sendDue budget) := by
  induction budget generalizing state with
  | zero => exact start
  | succ budget ih =>
      rw [sendDue]
      split
      · exact start
      · next pos dirty taken => exact ih (step state pos dirty taken start)

/--
What lighting the column whose turn it is keeps, lighting due columns anew
keeps.
-/
theorem relightDue_induction
    (holds : TickState → Prop)
    (step : ∀ (state : TickState) (pos : ColumnPos) (relight : ColumnQueue),
      state.store.relight.pop? = some (pos, relight) → holds state →
      holds
        ({ state with
            store := { state.store with relight := relight } }.relightColumn
              pos))
    {state : TickState}
    (start : holds state)
    (budget : Nat) :
    holds (state.relightDue budget) := by
  induction budget generalizing state with
  | zero => exact start
  | succ budget ih =>
      rw [relightDue]
      split
      · exact start
      · next pos relight taken =>
            exact ih (step state pos relight taken start)

end TickState

end VoxelRelay
