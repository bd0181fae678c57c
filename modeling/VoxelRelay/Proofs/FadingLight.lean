import VoxelRelay.Proofs.OverdueRelights
import VoxelRelay.Proofs.SendOrder

/-!
# Light that fades

Light that outlived its emitter goes as columns are lit anew, whatever the
order.  While no column that is sent has an emitter, a column that is lit gets
light that is darker by a level than all light that was stored before, and no
light becomes brighter in the meantime.  So once all columns were lit, the
brightest light is darker by a level, and fifteen rounds leave none.

The light that a column gets is the answer of a cache.  It is taken for granted
here that a cache answers with what would be computed, as it does where no two
inputs with different light have the same key.
-/

namespace VoxelRelay

/-- Block light is at most as bright as a bound. -/
def ColumnLight.BlockAtMost (light : ColumnLight) (bound : Nat) : Prop :=
  ∀ slot index, light.block.level slot index ≤ bound

theorem ColumnLight.blockAtMost_maxLevel (light : ColumnLight) :
    light.BlockAtMost maxLevel :=
  fun slot index => Nat.le_of_lt_succ (light.block.level_lt slot index)

namespace LightEvent

/-- A column is lit in which nothing gives off light. -/
def IsDull (event : LightEvent) : Prop :=
  Dull event.task.properties event.task.input.sections

end LightEvent

/-! ## Light while nothing shines -/

namespace Store

/--
All stored block light is at most as bright as a bound, and darker by a level
where a column was lit in one of the events.
-/
structure Fading
    (bound : Nat)
    (events : List LightEvent)
    (store : Store) : Prop where
  le : ∀ (pos : ColumnPos) (light : ColumnLight),
    store.light[pos]? = some light → light.BlockAtMost bound
  le_of_lit : ∀ event ∈ events, ∀ light : ColumnLight,
    store.light[event.pos]? = some light → light.BlockAtMost (bound - 1)

variable {bound : Nat} {events : List LightEvent} {store : Store}

theorem fading_maxLevel (store : Store) : store.Fading maxLevel [] where
  le := fun _ light _ => light.blockAtMost_maxLevel
  le_of_lit := fun _ absent => absurd absent List.not_mem_nil

section

variable (fading : store.Fading bound events)
include fading

/-- Light that is only lost does no harm. -/
theorem Fading.of_light
    {other : Store}
    (kept : ∀ (pos : ColumnPos) (light : ColumnLight),
      other.light[pos]? = some light → store.light[pos]? = some light) :
    other.Fading bound events where
  le := fun pos light known => fading.le pos light (kept pos light known)
  le_of_lit := fun event member light known =>
    fading.le_of_lit event member light (kept event.pos light known)

theorem Fading.forgetDerived (pos : ColumnPos) :
    (store.forgetDerived pos).Fading bound events := by
  apply fading.of_light
  intro other light known
  rw [Store.forgetDerived, Std.TreeMap.getElem?_erase] at known
  split at known
  · cases known
  · exact known

/-- What is not a tick brings no light. -/
theorem Fading.perform_of_ne_tick
    {operation : StoreOperation}
    (other : ∀ cache spawned, operation ≠ .tick cache spawned) :
    (store.perform operation).1.Fading bound events := by
  apply derived_induction (Store.Fading bound events ·) _ _ fading other
  · intro store other _ _ light _ before
    exact before.of_light fun pos _ => light ▸ id
  · intro store pos before
    exact before.forgetDerived pos

/-- A column without emitters gets light that is darker by a level. -/
theorem Fading.blockAtMost_light
    {event : LightEvent}
    (dull : event.IsDull)
    (beside : event.task.input.neighborLight = .ofFn fun direction =>
      store.light[event.pos.neighbor direction]?) :
    event.task.light.BlockAtMost (bound - 1) := by
  apply Dull.level_blockLight_le dull
  intro direction light known
  rw [beside, Sides.get_ofFn] at known
  exact fading.le (event.pos.neighbor direction) light known

/-- Such light may be stored for the column. -/
theorem Fading.lit
    {event : LightEvent}
    {other : Store}
    (darker : event.task.light.BlockAtMost (bound - 1))
    (stored : ∀ pos : ColumnPos,
      other.light[pos]? =
        (store.light.insert event.pos event.task.light)[pos]?) :
    other.Fading bound (events ++ [event]) := by
  have cases_of : ∀ (pos : ColumnPos) (light : ColumnLight),
      other.light[pos]? = some light →
      light = event.task.light ∨
        event.pos ≠ pos ∧ store.light[pos]? = some light := by
    intro pos light known
    rw [stored, Std.TreeMap.getElem?_insert] at known
    split at known
    · exact Or.inl (Option.some.inj known).symm
    · next apart =>
        refine Or.inr ⟨?_, known⟩
        rintro rfl
        exact apart Std.ReflCmp.compare_self
  constructor
  · intro pos light known slot index
    rcases cases_of pos light known with rfl | ⟨-, before⟩
    · exact (darker slot index).trans (Nat.sub_le _ _)
    · exact fading.le pos light before slot index
  · intro lit member light known
    rcases cases_of lit.pos light known with rfl | ⟨apart, before⟩
    · exact darker
    · rcases List.mem_append.1 member with earlier | last
      · exact fading.le_of_lit lit earlier light before
      · exact absurd
          (congrArg LightEvent.pos (List.mem_singleton.1 last)).symm
          apart

/-- Once every column was lit, the bound is lower. -/
theorem Fading.round
    (consistent : store.Consistent)
    (all : ∀ pos ∈ store.sent, pos ∈ events.map LightEvent.pos) :
    store.Fading (bound - 1) [] where
  le := by
    intro pos light known
    obtain ⟨event, member, rfl⟩ :=
      List.mem_map.1 (all pos (consistent.sent_of_light known))
    exact fading.le_of_lit event member light known
  le_of_lit := fun _ absent => absurd absent List.not_mem_nil

end

end Store

/-! ## Ticks -/

namespace TickState

variable
    {bound : Nat}
    {events : List LightEvent}
    {state : TickState}
    {asked : List LightTask}

/--
A column is sent with darker light, and the cache answers what is asked later.
-/
theorem fading_sendColumn
    (fading : state.store.Fading bound events)
    {pos : ColumnPos}
    (dull : ∀ event ∈ state.sendEvents pos, event.IsDull)
    (answers : state.cache.Answers (state.sendTasks pos ++ asked)) :
    (state.sendColumn pos).store.Fading bound
        (events ++ state.sendEvents pos) ∧
      (state.sendColumn pos).cache.Answers asked := by
  cases loaded : state.store.column? pos with
  | none =>
      rw [sendTasks, loaded] at answers
      rw [sendColumn_of_not_loaded loaded, sendEvents, sendTasks, loaded]
      exact ⟨(List.append_nil events).symm ▸ fading, answers⟩
  | some column =>
      let event : LightEvent := ⟨pos, state.sendTask pos column, true⟩
      have lit : state.sendEvents pos = [event] := by
        rw [sendEvents, sendTasks, loaded]
        rfl
      rw [sendTasks, loaded] at answers
      obtain ⟨answer, later⟩ := answers
      rw [lit] at dull ⊢
      rw [sendColumn_eq_sentWith loaded]
      refine ⟨fading.lit ?_ ?_, later⟩
      · exact fading.blockAtMost_light (dull event List.mem_cons_self) rfl
      · intro other
        rw [sentWith, Store.relightNeighbors_eq, ← answer]
        rfl

/-- A column is lit anew with darker light. -/
theorem fading_relightColumn
    (fading : state.store.Fading bound events)
    {pos : ColumnPos}
    (dull : ∀ event ∈ state.relightEvents pos, event.IsDull)
    (answers : state.cache.Answers (state.relightTasks pos ++ asked)) :
    (state.relightColumn pos).store.Fading bound
        (events ++ state.relightEvents pos) ∧
      (state.relightColumn pos).cache.Answers asked := by
  cases converted : state.store.converted[pos]? with
  | none =>
      rw [relightTasks, converted] at answers
      rw [relightColumn_of_not_converted converted, relightEvents,
        relightTasks, converted]
      exact ⟨(List.append_nil events).symm ▸ fading, answers⟩
  | some palettes =>
      let event : LightEvent := ⟨pos, state.relightTask pos palettes, false⟩
      have lit : state.relightEvents pos = [event] := by
        rw [relightEvents, relightTasks, converted]
        rfl
      rw [relightTasks, converted] at answers
      obtain ⟨answer, later⟩ := answers
      have cache_eq : (state.relightColumn pos).cache =
          (state.cache.getOrCompute event.task.properties
            event.task.input).2 := by
        rw [relightColumn_eq_relitWith converted, relitWith]
        split <;> rfl
      rw [lit] at dull ⊢
      refine ⟨fading.lit ?_ fun other => ?_, cache_eq ▸ later⟩
      · exact fading.blockAtMost_light (dull event List.mem_cons_self) rfl
      · have computed : (state.computed pos palettes).1 = event.task.light :=
          answer
        rcases relightColumn_of_converted converted with
          ⟨known, same, -⟩ | ⟨relit, -⟩
        · rw [same, Std.TreeMap.getElem?_insert, ← computed, ← known]
          split
          · next here =>
              obtain rfl : pos = other := Std.LawfulEqCmp.eq_of_compare here
              rfl
          · rfl
        · rw [relit, computed]
          rfl

/-- As many columns as the budget allows are sent. -/
theorem fading_sendDue
    (budget : Nat)
    {state : TickState}
    {events : List LightEvent}
    (fading : state.store.Fading bound events)
    (dull : ∀ event ∈ sendDueEvents budget state, event.IsDull)
    (answers : state.cache.Answers (sendDueTasks budget state ++ asked)) :
    (state.sendDue budget).store.Fading bound
        (events ++ sendDueEvents budget state) ∧
      (state.sendDue budget).cache.Answers asked := by
  induction budget generalizing state events with
  | zero => exact ⟨(List.append_nil events).symm ▸ fading, answers⟩
  | succ budget ih =>
      rw [sendDueEvents] at dull
      rw [sendDueTasks] at answers
      rw [sendDue, sendDueEvents]
      cases taken : state.store.dirty.pop? with
      | none =>
          rw [taken] at answers
          exact ⟨(List.append_nil events).symm ▸ fading, answers⟩
      | some turn =>
          rw [taken] at dull answers
          have start :
              Store.Fading bound events
                { state.store with dirty := turn.2 } :=
            fading.of_light fun _ _ => id
          rw [List.append_assoc] at answers
          obtain ⟨here, rest⟩ := List.forall_mem_append.1 dull
          obtain ⟨first, later⟩ := @fading_sendColumn bound events
            { state with store := _ } _ start turn.1 here answers
          rw [← List.append_assoc]
          exact ih first rest later

/-- As many columns as the budget allows are lit anew. -/
theorem fading_relightDue
    (budget : Nat)
    {state : TickState}
    {events : List LightEvent}
    (fading : state.store.Fading bound events)
    (dull : ∀ event ∈ relightDueEvents budget state, event.IsDull)
    (answers : state.cache.Answers (relightDueTasks budget state)) :
    (state.relightDue budget).store.Fading bound
      (events ++ relightDueEvents budget state) := by
  induction budget generalizing state events with
  | zero => exact (List.append_nil events).symm ▸ fading
  | succ budget ih =>
      rw [relightDueEvents] at dull
      rw [relightDueTasks] at answers
      rw [relightDue, relightDueEvents]
      cases taken : state.store.relight.pop? with
      | none => exact (List.append_nil events).symm ▸ fading
      | some turn =>
          rw [taken] at dull answers
          obtain ⟨here, rest⟩ := List.forall_mem_append.1 dull
          have start :
              Store.Fading bound events
                { state.store with relight := turn.2 } :=
            fading.of_light fun _ _ => id
          obtain ⟨first, later⟩ := @fading_relightColumn bound events
            { state with store := _ } _ start turn.1 here answers
          rw [← List.append_assoc]
          exact ih first rest later

/-! ### What is lit in a tick -/

/-- The first column that is due is lit, if it is loaded. -/
theorem mem_sendDueEvents_of_pop?
    {state : TickState}
    {pos : ColumnPos}
    {column : Column}
    {rest : ColumnQueue}
    (taken : state.store.dirty.pop? = some (pos, rest))
    (loaded : state.store.column? pos = some column)
    {budget : Nat}
    (some : budget ≠ 0) :
    pos ∈ (sendDueEvents budget state).map LightEvent.pos := by
  obtain ⟨budget, rfl⟩ := Nat.exists_eq_succ_of_ne_zero some
  rw [sendDueEvents, taken]
  simp only [sendEvents, sendTasks]
  rw [show Store.column? { state.store with dirty := rest } pos = _
    from loaded]
  exact List.mem_cons_self

/-- Columns that are not due keep their blocks. -/
theorem converted_sendDue_of_still
    {state : TickState}
    {pos : ColumnPos}
    (still : ¬ state.store.dirty.contains pos = true)
    (budget : Nat) :
    (state.sendDue budget).store.converted[pos]? =
      state.store.converted[pos]? :=
  (Store.Sending.sendDue budget
    (Store.sending_self state.store)).converted_of_still
    pos (Or.inl still)

/-- The blocks that a sent column is lit by are those that are stored for it. -/
theorem converted_of_mem_sendDueEvents
    (budget : Nat)
    (state : TickState) :
    ∀ event ∈ sendDueEvents budget state,
      (state.sendDue budget).store.converted[event.pos]? =
          some event.task.input.sections ∧
        event.task.properties = state.store.table.light := by
  induction budget generalizing state with
  | zero => exact fun _ absent => absurd absent List.not_mem_nil
  | succ budget ih =>
      intro event member
      rw [sendDueEvents] at member
      rw [sendDue]
      cases taken : state.store.dirty.pop? with
      | none =>
          rw [taken] at member
          exact absurd member List.not_mem_nil
      | some turn =>
          obtain ⟨pos, rest⟩ := turn
          rw [taken] at member
          let next : TickState :=
            { state with store := { state.store with dirty := rest } }
          rcases List.mem_append.1 member with now | later
          · have gone :
                ¬ (next.sendColumn pos).store.dirty.contains pos = true := by
              rw [next.dirty_sendColumn]
              exact fun waits =>
                (((ColumnQueue.pop?_eq_some taken).2 pos).1 waits).1 rfl
            cases loaded : next.store.column? pos with
            | none =>
                rw [sendEvents, sendTasks, loaded] at now
                exact absurd now List.not_mem_nil
            | some column =>
                rw [sendEvents, sendTasks, loaded] at now
                obtain rfl := List.mem_singleton.1 now
                exact ⟨(converted_sendDue_of_still gone budget).trans
                  (converted_sendColumn_self loaded), rfl⟩
          · obtain ⟨stored, properties⟩ :=
              ih (next.sendColumn pos) event later
            refine ⟨stored, properties.trans ?_⟩
            rw [Store.table, (next.sameView_sendColumn pos).converter_eq]
            rfl

/-- So are the blocks that a column is lit anew by. -/
theorem converted_of_mem_relightDueEvents
    (budget : Nat)
    (state : TickState) :
    ∀ event ∈ relightDueEvents budget state,
      state.store.converted[event.pos]? = some event.task.input.sections ∧
        event.task.properties = state.store.table.light := by
  induction budget generalizing state with
  | zero => exact fun _ absent => absurd absent List.not_mem_nil
  | succ budget ih =>
      intro event member
      rw [relightDueEvents] at member
      cases taken : state.store.relight.pop? with
      | none =>
          rw [taken] at member
          exact absurd member List.not_mem_nil
      | some turn =>
          rw [taken] at member
          let next : TickState :=
            { state with store := { state.store with relight := turn.2 } }
          rcases List.mem_append.1 member with now | later
          · cases converted : next.store.converted[turn.1]? with
            | none =>
                rw [relightEvents, relightTasks, converted] at now
                exact absurd now List.not_mem_nil
            | some palettes =>
                rw [relightEvents, relightTasks, converted] at now
                obtain rfl := List.mem_singleton.1 now
                exact ⟨converted, rfl⟩
          · obtain ⟨light, relit, -⟩ := next.exists_light_relightColumn turn.1
            have known := ih (next.relightColumn turn.1) event later
            rw [relit] at known
            exact known

end TickState

namespace Store

variable {bound : Nat} {events : List LightEvent} {store : Store}

/-- Where no column shines after a tick, none did that was lit in it. -/
theorem isDull_of_mem_tickEvents
    {cache : LightCache}
    {spawned : Bool}
    (unlit : (store.tick cache spawned).1.store.Unlit) :
    ∀ event ∈ store.tickEvents cache, event.IsDull := by
  intro event member
  let start : TickState := ⟨store, cache, [], [], ⟨0, 0, 0, 0⟩⟩
  have table_eq : (store.sentDue cache).store.table = store.table := by
    have kept := @Sending.sendDue store _
      store.settings.scheduler.columnsPerTick start (sending_self store)
    rw [table, sentDue, kept.sameView.converter_eq, table]
  obtain ⟨light, relight, wanted, inFlight, after⟩ :=
    store.exists_store_tick cache spawned
  have shown : (store.sentDue cache).store.converted[event.pos]? =
        some event.task.input.sections ∧
      event.task.properties = store.table.light := by
    rcases List.mem_append.1 member with sent | relit
    · exact TickState.converted_of_mem_sendDueEvents _ start event sent
    · rw [← table_eq]
      exact TickState.converted_of_mem_relightDueEvents _ _ event relit
  have dull := unlit event.pos event.task.input.sections
  rw [after] at dull
  rw [LightEvent.IsDull, shown.2, ← table_eq]
  exact dull shown.1

theorem Fading.tick
    (fading : store.Fading bound events)
    {cache : LightCache}
    {spawned : Bool}
    (unlit : (store.tick cache spawned).1.store.Unlit)
    (answers : cache.Answers (store.tickTasks cache)) :
    (store.tick cache spawned).1.store.Fading bound
      (events ++ store.tickEvents cache) := by
  obtain ⟨sends, relights⟩ :=
    List.forall_mem_append.1 (isDull_of_mem_tickEvents unlit)
  let start : TickState := ⟨store, cache, [], [], ⟨0, 0, 0, 0⟩⟩
  obtain ⟨sent, later⟩ := @TickState.fading_sendDue bound _
    store.settings.scheduler.columnsPerTick start events fading sends answers
  have lit := TickState.fading_relightDue
    store.settings.scheduler.lightUpdatesPerTick sent relights later
  rw [List.append_assoc] at lit
  cases spawned with
  | false => exact (store.tick_of_not_spawned cache).1 ▸ lit
  | true =>
      rw [(store.tick_of_spawned cache).1]
      exact lit.of_light fun _ _ => id

/-! ## Runs -/

/--
Something holds of each operation of a run and of the store that it finds.
-/
def DuringRun (holds : Store → StoreOperation → Prop) :
    Store → List StoreOperation → Prop
  | _, [] => True
  | store, operation :: rest =>
      holds store operation ∧ (store.perform operation).1.DuringRun holds rest

theorem duringRun_append_iff
    {holds : Store → StoreOperation → Prop}
    {store : Store}
    {operations more : List StoreOperation} :
    store.DuringRun holds (operations ++ more) ↔
      store.DuringRun holds operations ∧
        (store.run operations).DuringRun holds more := by
  induction operations generalizing store with
  | nil => exact (and_iff_right trivial).symm
  | cons operation rest ih =>
      exact (and_congr_right fun _ => ih).trans and_assoc.symm

theorem duringRun_of_forall
    {holds : Store → StoreOperation → Prop}
    {operations : List StoreOperation}
    (each : ∀ operation ∈ operations, ∀ store, holds store operation)
    (store : Store) :
    store.DuringRun holds operations := by
  induction operations generalizing store with
  | nil => trivial
  | cons operation rest ih =>
      obtain ⟨first, later⟩ := List.forall_mem_cons.1 each
      exact ⟨first store, ih later _⟩

/-- After each operation of a run, no column that was sent gives off light. -/
def StaysUnlit (store : Store) (operations : List StoreOperation) : Prop :=
  store.DuringRun (fun store operation => (store.perform operation).1.Unlit)
    operations

/--
The caches that the ticks of a run find answer with what would be computed.
-/
def AnsweredTruly (store : Store) (operations : List StoreOperation) : Prop :=
  store.DuringRun
    (fun store operation => ∀ cache spawned, operation = .tick cache spawned →
      cache.Answers (store.tickTasks cache))
    operations

/-- So do caches that hold results under keys of their own. -/
theorem answeredTruly_of_holds
    {tasks : List LightTask}
    (unambiguous : LightTask.Unambiguous tasks)
    {store : Store}
    {operations : List StoreOperation}
    (found : store.DuringRun
      (fun store operation =>
        ∀ cache spawned, operation = .tick cache spawned → cache.Holds tasks ∧
          store.tickTasks cache ⊆ tasks) operations) :
    store.AnsweredTruly operations := by
  induction operations generalizing store with
  | nil => trivial
  | cons operation rest ih =>
      refine ⟨fun cache spawned same => ?_, ih found.2⟩
      obtain ⟨holds, included⟩ := found.1 cache spawned same
      exact holds.answers unambiguous included

/--
A run in rounds, each of which lights all columns that are sent at its end.
-/
def LitInRounds : Store → List (List StoreOperation) → Prop
  | _, [] => True
  | store, round :: rest =>
      (∀ pos ∈ (store.run round).sent,
        pos ∈ (store.lightEvents round).map LightEvent.pos) ∧
        (store.run round).LitInRounds rest

/-- While no column shines, no light becomes brighter. -/
theorem Fading.run
    {store : Store}
    {events : List LightEvent}
    (fading : store.Fading bound events)
    {operations : List StoreOperation}
    (unlit : store.StaysUnlit operations)
    (answers : store.AnsweredTruly operations) :
    (store.run operations).Fading bound
      (events ++ store.lightEvents operations) := by
  induction operations generalizing store events with
  | nil => exact (List.append_nil events).symm ▸ fading
  | cons operation rest ih =>
      have next : (store.perform operation).1.Fading bound
          (events ++ store.eventsOf operation) := by
        rcases tick_or_eventsOf_eq_nil operation with
          ⟨cache, spawned, rfl⟩ | ⟨other, silent⟩
        · exact fading.tick unlit.1 (answers.1 cache spawned rfl)
        · rw [silent, List.append_nil]
          exact fading.perform_of_ne_tick other
      rw [lightEvents, ← List.append_assoc]
      exact ih next unlit.2 answers.2

/-- Each round takes a level from the brightest light. -/
theorem Fading.rounds
    {bound : Nat}
    {store : Store}
    (consistent : store.Consistent)
    (fading : store.Fading bound [])
    {rounds : List (List StoreOperation)}
    (unlit : store.StaysUnlit rounds.flatten)
    (answers : store.AnsweredTruly rounds.flatten)
    (lit : store.LitInRounds rounds) :
    (store.run rounds.flatten).Fading (bound - rounds.length) [] := by
  induction rounds generalizing bound store with
  | nil => exact fading
  | cons round rest ih =>
      obtain ⟨unlitNow, unlitLater⟩ := duringRun_append_iff.1 unlit
      obtain ⟨answersNow, answersLater⟩ := duringRun_append_iff.1 answers
      have once : (store.run round).Fading (bound - 1) [] :=
        (fading.run unlitNow answersNow).round (consistent.run round) lit.1
      have after :=
        ih (consistent.run round) once unlitLater answersLater lit.2
      rw [List.flatten_cons, run_append, List.length_cons, Nat.add_comm,
        ← Nat.sub_sub]
      exact after

variable {settings : Settings} {converter : Converter}

/-- No light comes from nothing. -/
theorem level_block_run_eq_zero_of_staysUnlit
    {operations : List StoreOperation}
    (unlit : (create settings converter).StaysUnlit operations)
    (answers : (create settings converter).AnsweredTruly operations)
    {pos : ColumnPos}
    {light : ColumnLight}
    (known : ((create settings converter).run operations).sentLight? pos =
      some light)
    (slot index : Nat) :
    light.block.level slot index = 0 := by
  have dark : (create settings converter).Fading 0 [] := {
    le := fun pos light absent => by
      rw [create, Std.TreeMap.getElem?_emptyc] at absent
      cases absent
    le_of_lit := fun _ absent => absurd absent List.not_mem_nil }
  exact Nat.eq_zero_of_le_zero
    ((dark.run unlit answers).le pos light known slot index)

/--
Whatever happened to a store: if from then on no column that was sent has an
emitter, and the operations come in rounds, each of which lights all columns
that are sent at its end, then every round takes a level from all block light.
Fifteen rounds leave none.
-/
theorem level_block_run_le_of_rounds
    {before : List StoreOperation}
    {rounds : List (List StoreOperation)}
    (unlit : ((create settings converter).run before).StaysUnlit
      rounds.flatten)
    (answers : ((create settings converter).run before).AnsweredTruly
      rounds.flatten)
    (lit : ((create settings converter).run before).LitInRounds rounds)
    {pos : ColumnPos}
    (sent : ((create settings converter).run
        (before ++ rounds.flatten)).isSent pos = true) :
    ∃ light, ((create settings converter).run
        (before ++ rounds.flatten)).sentLight? pos = some light ∧
      ∀ slot index, light.block.level slot index ≤ 15 - rounds.length := by
  have consistent : ((create settings converter).run before).Consistent :=
    (consistent_create settings converter).run before
  obtain ⟨light, known⟩ :=
    ((consistent_create settings converter).run _).exists_light sent
  refine ⟨light, known, ?_⟩
  rw [run_append] at known
  exact ((fading_maxLevel _).rounds consistent unlit answers lit).le pos
    light known

/-! ## Two columns that shine on each other -/

theorem resting_bothSent : Resting bothSent [east, west] := by
  obtain ⟨atWest, atEast⟩ := columns_lampStore
  obtain ⟨first, columns, -⟩ := resting_lampStore.send rfl atWest (by decide)
  rw [← columns] at atEast
  exact (first.send rfl atEast (by decide)).1

theorem resting_ghostStore : Resting ghostStore [east] where
  toStanding := standing_ghostStore
  lined := by
    rw [ghostStore_eq]
    exact resting_bothSent.lined.remove west
  unwaited := not_relight_ghostStore

/-- The two columns, of which those that were sent show nothing but air. -/
structure AirPair
    (store : Store)
    (sent : List ColumnPos) :
    Prop
    extends Resting store sent where
  only : sent ⊆ [west, east]
  columns_eq : ∀ pos ∈ [west, east],
    store.columns[pos]? = some (.create pos 1 1)
  blocks_eq : ∀ pos ∈ sent, store.converted[pos]? = some #[.blocks air]

namespace AirPair

variable {store : Store} {sent : List ColumnPos} (pair : AirPair store sent)
include pair

theorem unlit : store.Unlit := by
  intro pos palettes known
  rw [pair.blocks_eq pos (pair.toStanding.mem_of_converted known)] at known
  cases known
  rw [table, pair.converter_eq]
  exact dull_air

/-- Either column may be sent once more. -/
theorem send
    {pos : ColumnPos}
    (member : pos ∈ [west, east]) :
    AirPair (store.run (sending pos)) (pos :: sent) := by
  have inside : ViewWindow.loads ⟨⟨0, 0⟩, 8, none⟩ pos = true ∧
      pos ∉ pos.neighbors := by
    rcases List.mem_pair.1 member with rfl | rfl <;> decide
  obtain ⟨resting, columns, converted, -⟩ :=
    pair.toResting.send inside.1 (pair.columns_eq pos member) inside.2
  rw [palettes_convert_create] at converted
  refine ⟨resting, List.cons_subset.2 ⟨member, pair.only⟩, ?_, ?_⟩
  · rw [columns]
    exact pair.columns_eq
  · intro other counted
    rw [converted, Std.TreeMap.getElem?_insert]
    split
    · rfl
    · next apart =>
        apply pair.blocks_eq other
        refine (List.mem_cons.1 counted).resolve_left ?_
        rintro rfl
        exact apart Std.ReflCmp.compare_self

theorem staysUnlit_sending
    {pos : ColumnPos}
    (member : pos ∈ [west, east]) :
    store.StaysUnlit (sending pos) :=
  ⟨pair.unlit, (pair.send member).unlit, trivial⟩

/-- The column that is sent is lit. -/
theorem mem_lightEvents_sending
    {pos : ColumnPos}
    (member : pos ∈ [west, east]) :
    pos ∈ (store.lightEvents (sending pos)).map LightEvent.pos := by
  have inside : ViewWindow.loads ⟨⟨0, 0⟩, 8, none⟩ pos = true := by
    rcases List.mem_pair.1 member with rfl | rfl <;> decide
  obtain ⟨rest, taken, -, known, settings, -⟩ :=
    pair.toStanding.exists_turn inside (pair.columns_eq pos member)
  have budget :
      (store.markDirty pos).settings.scheduler.columnsPerTick ≠ 0 := by
    rw [settings]
    decide
  have sent := @TickState.mem_sendDueEvents_of_pop?
    ⟨store.markDirty pos, .create 0 none, [], [], ⟨0, 0, 0, 0⟩⟩ pos _ rest
    taken known _ budget
  have ticked : store.lightEvents (sending pos) =
      (store.markDirty pos).tickEvents (.create 0 none) :=
    List.append_nil _
  rw [ticked, tickEvents, List.map_append]
  exact List.mem_append_left _ sent

end AirPair

/-- The columns are sent in turn, in every round. -/
def resends : List StoreOperation := sending west ++ sending east

theorem lightEvents_append
    (store : Store)
    (operations more : List StoreOperation) :
    store.lightEvents (operations ++ more) =
      store.lightEvents operations ++
        (store.run operations).lightEvents more := by
  induction operations generalizing store with
  | nil => rfl
  | cons operation rest ih =>
      rw [List.cons_append, lightEvents, ih, lightEvents, List.append_assoc]
      rfl

theorem AirPair.resends
    {store : Store}
    {sent : List ColumnPos}
    (pair : AirPair store sent) :
    AirPair (store.run resends) (east :: west :: sent) ∧
      store.StaysUnlit resends ∧
      ∀ pos ∈ (store.run resends).sent,
        pos ∈ (store.lightEvents resends).map LightEvent.pos := by
  have atWest : west ∈ [west, east] := List.mem_cons_self
  have atEast : east ∈ [west, east] :=
    List.mem_cons_of_mem _ List.mem_cons_self
  have once := pair.send atWest
  have twice := once.send atEast
  rw [← run_append] at twice
  refine ⟨twice, duringRun_append_iff.2
    ⟨pair.staysUnlit_sending atWest, once.staysUnlit_sending atEast⟩, ?_⟩
  intro pos counted
  rw [Store.resends, lightEvents_append, List.map_append]
  rcases List.mem_pair.1
      (twice.only ((twice.mem_sent_iff pos).1 counted)) with
    rfl | rfl
  · exact List.mem_append_left _ (pair.mem_lightEvents_sending atWest)
  · exact List.mem_append_right _ (once.mem_lightEvents_sending atEast)

theorem AirPair.rounds
    {store : Store}
    {sent : List ColumnPos}
    (pair : AirPair store sent)
    (count : Nat) :
    let rounds := List.replicate count Store.resends
    (∃ later, AirPair (store.run rounds.flatten) later ∧ sent ⊆ later) ∧
      store.StaysUnlit rounds.flatten ∧ store.LitInRounds rounds := by
  induction count generalizing store sent with
  | zero => exact ⟨⟨sent, pair, List.Subset.refl sent⟩, trivial, trivial⟩
  | succ count ih =>
      obtain ⟨next, unlit, lit⟩ := pair.resends
      obtain ⟨⟨later, last, kept⟩, laterUnlit, laterLit⟩ := ih next
      refine ⟨⟨later, ?_, ?_⟩, duringRun_append_iff.2 ⟨unlit, laterUnlit⟩,
        lit, laterLit⟩
      · rw [List.replicate_succ, List.flatten_cons, run_append]
        exact last
      · exact (List.cons_subset.1 (List.cons_subset.1 kept).2).2

/--
The western column comes back without its lamp, and is sent beside the ghost.
-/
def hauntedRun : List StoreOperation :=
  ghostRun ++ .createColumn west 1 :: sending west

def hauntedStore : Store := (create lampSettings lampConverter).run hauntedRun

theorem hauntedStore_eq :
    hauntedStore = (ghostStore.createColumn west 1).store.run
      (sending west) :=
  run_append _ _ _

theorem airPair_createColumn_west :
    AirPair (ghostStore.createColumn west 1).store [east] ∧
      ∃ light, (ghostStore.createColumn west 1).store.light[east]? =
        some light ∧
        14 ≤ light.block.levelAt ⟨0, 0, 8, 8⟩ := by
  obtain ⟨resting, columns, kept⟩ :=
    @Resting.createColumn _ _ resting_ghostStore west (by decide) rfl
  obtain ⟨light, known, bright⟩ := light_ghostStore
  obtain ⟨lightKept, blocksKept⟩ := kept east (by decide)
  refine ⟨⟨resting, List.subset_cons_self _ _, ?_, ?_⟩, light, ?_, bright⟩
  · intro pos member
    rw [columns, Std.TreeMap.getElem?_insert]
    rcases List.mem_pair.1 member with rfl | rfl
    · exact if_pos Std.ReflCmp.compare_self
    · rw [if_neg compare_west_east, ghostStore_eq]
      refine Std.TreeMap.getElem?_erase.trans
        ((if_neg compare_west_east).trans ?_)
      rw [standing_bothSent.2.1]
      exact columns_lampStore.2
  · intro pos member
    rw [List.mem_singleton.1 member, blocksKept, eastBlocks_ghostStore]
  · exact lightKept.trans known

/-- Both columns have light to lose. -/
theorem light_hauntedStore :
    (∃ light, hauntedStore.sentLight? west = some light ∧
        13 ≤ light.block.levelAt ⟨0, 15, 8, 8⟩) ∧
      ∃ light, hauntedStore.sentLight? east = some light ∧
        12 ≤ light.block.levelAt ⟨0, 0, 8, 8⟩ := by
  obtain ⟨pair, light, known, bright⟩ := airPair_createColumn_west
  have atWest := pair.columns_eq west List.mem_cons_self
  -- The western column is lit by the ghost, and lights its column anew.
  obtain ⟨shining, fresh⟩ :
      ∃ shining, (ghostStore.createColumn west 1).store.freshLight west
        #[.blocks air] = shining := ⟨_, rfl⟩
  have westLit := pair.light_send rfl atWest (by decide)
  have relit := pair.relit_send rfl atWest (by decide) (by decide)
    (fun place _ member => List.mem_singleton.1 member)
    (pair.blocks_eq east List.mem_cons_self)
      (palettes_convert_create west) fresh
  have inWest : Voxel.InRange 1 ⟨0, 15, 8, 8⟩ := by decide
  have inEast : Voxel.InRange 1 ⟨0, 0, 8, 8⟩ := by decide
  have westBright : 13 ≤ shining.block.levelAt ⟨0, 15, 8, 8⟩ :=
    fresh ▸ (Nat.sub_le_sub_right bright 1).trans
      (@Standing.le_level_freshLight _ _ pair.toStanding west .east
        light known _ inWest rfl)
  have beside : (((ghostStore.createColumn west 1).store.withSent west
      #[.blocks air] shining).lightInput east
      #[.blocks air]).neighborLight.get
        .west = some shining := by
    rw [lightInput, Sides.get_ofFn]
    exact Std.TreeMap.getElem?_insert_self
  rw [palettes_convert_create, fresh] at westLit
  rw [hauntedStore_eq]
  refine ⟨⟨_, westLit, westBright⟩, _, relit, ?_⟩
  rw [LightInput.block_light]
  exact (Nat.sub_le_sub_right westBright 1).trans
    (le_levelAt_of_beside rfl beside inEast rfl)

/--
Two columns without emitters shine on each other until they are lit in fifteen
rounds.
-/
theorem level_block_run_le_of_rounds_haunted :
    let rounds := List.replicate 15 resends
    hauntedStore.StaysUnlit rounds.flatten ∧
      hauntedStore.AnsweredTruly rounds.flatten ∧
      hauntedStore.LitInRounds rounds ∧
      (∃ light, hauntedStore.sentLight? west = some light ∧
        13 ≤ light.block.levelAt ⟨0, 15, 8, 8⟩) ∧
      (∃ light, hauntedStore.sentLight? east = some light ∧
        12 ≤ light.block.levelAt ⟨0, 0, 8, 8⟩) ∧
      ∀ pos ∈ [west, east],
        (hauntedStore.run rounds.flatten).isSent pos = true ∧
        ∃ light, (hauntedStore.run rounds.flatten).sentLight? pos =
          some light ∧
          ∀ slot index, light.block.level slot index = 0 := by
  intro rounds
  have atWest : west ∈ [west, east] := List.mem_cons_self
  have start := airPair_createColumn_west.1.send atWest
  rw [← hauntedStore_eq] at start
  obtain ⟨⟨later, last, kept⟩, unlit, lit⟩ := start.rounds 15
  have answers : hauntedStore.AnsweredTruly rounds.flatten := by
    apply duringRun_of_forall
    intro operation member store cache spawned same
    obtain ⟨round, listed, here⟩ := List.mem_flatten.1 member
    rw [List.eq_of_mem_replicate listed, same] at here
    have empty : cache = .create 0 none := by
      simp only [resends, sending, List.cons_append, List.nil_append,
        List.mem_cons, List.not_mem_nil, reduceCtorEq,
        StoreOperation.tick.injEq, false_or, or_false, or_self] at here
      exact here.1
    exact empty ▸ LightCache.answers_create_zero none _
  refine ⟨unlit, answers, lit, light_hauntedStore.1, light_hauntedStore.2, ?_⟩
  intro pos member
  have sent : (hauntedStore.run rounds.flatten).isSent pos = true :=
    Std.TreeSet.mem_iff_contains.1 ((last.mem_sent_iff pos).2 (kept member))
  have whole : (create lampSettings lampConverter).run
      (hauntedRun ++ rounds.flatten) = hauntedStore.run rounds.flatten :=
    run_append _ _ _
  obtain ⟨light, known, faded⟩ :=
    level_block_run_le_of_rounds unlit answers lit
      (whole.symm ▸ sent)
  refine ⟨sent, light, whole ▸ known, fun slot index => ?_⟩
  have bound := faded slot index
  rw [List.length_replicate] at bound
  exact Nat.eq_zero_of_le_zero bound

end Store

end VoxelRelay
