import VoxelRelay.Proofs.CachedLight
import VoxelRelay.Proofs.ClientMirror

/-!
# No column is forgotten that is overdue

Light crosses the borders of columns, so the light of a column is out of date
as soon as a neighbor is shown with other blocks.  The events of a run are the
light computations in order, each with its column: those of columns that are
shown and those of columns that are lit anew.  A column is overdue if a
neighbor was shown after its own light was computed last.  Whatever happens in
between, a sent column that is overdue waits in the queue.
-/

namespace VoxelRelay

/--
The light of a column is computed, to show the column or to light it anew.
-/
structure LightEvent where
  pos : ColumnPos
  task : LightTask
  shows : Bool

namespace LightEvent

/-- The columns that are shown, in order. -/
def shown (events : List LightEvent) : List ColumnPos :=
  (events.filter shows).map pos

theorem shown_append (events more : List LightEvent) :
    shown (events ++ more) = shown events ++ shown more := by
  rw [shown, List.filter_append, List.map_append]
  rfl

/-- A column was shown after the light of another one was computed last. -/
def Overdue (events : List LightEvent) (neighbor pos : ColumnPos) : Prop :=
  ∃ before event after, events = before ++ event :: after ∧
    event.pos = neighbor ∧ event.shows = true ∧
    ∀ later ∈ after, later.pos ≠ pos

theorem not_overdue_nil (neighbor pos : ColumnPos) :
    ¬ Overdue [] neighbor pos := by
  rintro ⟨before, event, after, split, -⟩
  exact List.append_ne_nil_of_right_ne_nil before
    (List.cons_ne_nil event after) split.symm

/--
The last event shows the neighbor, or it is about other columns than the one
that is overdue.
-/
theorem overdue_concat_iff
    (events : List LightEvent)
    (last : LightEvent)
    (neighbor pos : ColumnPos) :
    Overdue (events ++ [last]) neighbor pos ↔
      (last.pos = neighbor ∧ last.shows = true) ∨
        (Overdue events neighbor pos ∧ last.pos ≠ pos) := by
  constructor
  · rintro ⟨before, event, after, split, here, shows, still⟩
    rcases List.eq_nil_or_concat after with rfl | ⟨between, final, rfl⟩
    · obtain ⟨rfl, same⟩ := List.append_inj' split rfl
      cases same
      exact Or.inl ⟨here, shows⟩
    · rw [List.concat_eq_append] at split still
      rw [← List.cons_append, ← List.append_assoc] at split
      obtain ⟨rfl, same⟩ := List.append_inj' split rfl
      cases same
      refine Or.inr
        ⟨⟨before, event, between, rfl, here, shows, fun later member => ?_⟩,
          ?_⟩
      · exact still later (List.mem_append_left _ member)
      · exact still last (List.mem_append_right _ List.mem_cons_self)
  · rintro (⟨here, shows⟩ |
      ⟨⟨before, event, after, rfl, here, shows, still⟩, apart⟩)
    · exact ⟨events, last, [], rfl, here, shows, fun _ absent =>
        absurd absent List.not_mem_nil⟩
    · refine ⟨before, event, after ++ [last], by simp, here, shows, ?_⟩
      intro later member
      rcases List.mem_append.1 member with earlier | final
      · exact still later earlier
      · rw [List.mem_singleton.1 final]
        exact apart

end LightEvent

open LightEvent

/-! ## The events of a run -/

namespace TickState

/-- A column is lit when it is sent, if it is loaded. -/
def sendEvents (state : TickState) (pos : ColumnPos) : List LightEvent :=
  (state.sendTasks pos).map fun task => ⟨pos, task, true⟩

/-- A column is lit anew, if it was sent. -/
def relightEvents (state : TickState) (pos : ColumnPos) : List LightEvent :=
  (state.relightTasks pos).map fun task => ⟨pos, task, false⟩

/-- Due columns are sent. -/
def sendDueEvents : Nat → TickState → List LightEvent
  | 0, _ => []
  | budget + 1, state =>
      match state.store.dirty.pop? with
      | none => []
      | some (pos, dirty) =>
          let taken : TickState :=
            { state with store := { state.store with dirty := dirty } }
          taken.sendEvents pos ++ sendDueEvents budget (taken.sendColumn pos)

/-- Due columns are lit anew. -/
def relightDueEvents : Nat → TickState → List LightEvent
  | 0, _ => []
  | budget + 1, state =>
      match state.store.relight.pop? with
      | none => []
      | some (pos, relight) =>
          let taken : TickState :=
            { state with store := { state.store with relight := relight } }
          taken.relightEvents pos ++
            relightDueEvents budget (taken.relightColumn pos)

theorem map_task_sendDueEvents
    (budget : Nat)
    (state : TickState) :
    (sendDueEvents budget state).map LightEvent.task =
      sendDueTasks budget state := by
  induction budget generalizing state with
  | zero => rfl
  | succ budget ih =>
      rw [sendDueEvents, sendDueTasks]
      cases state.store.dirty.pop? with
      | none => rfl
      | some turn =>
          rw [List.map_append, ih, sendEvents, List.map_map]
          exact congrArg (· ++ _) (List.map_id _)

theorem map_task_relightDueEvents
    (budget : Nat)
    (state : TickState) :
    (relightDueEvents budget state).map LightEvent.task =
      relightDueTasks budget state := by
  induction budget generalizing state with
  | zero => rfl
  | succ budget ih =>
      rw [relightDueEvents, relightDueTasks]
      cases state.store.relight.pop? with
      | none => rfl
      | some turn =>
          rw [List.map_append, ih, relightEvents, List.map_map]
          exact congrArg (· ++ _) (List.map_id _)

/-- The columns that are sent are told to the client. -/
theorem shown_sendColumn
    {state : TickState}
    (consistent : state.store.Consistent)
    (pos : ColumnPos) :
    Message.shown (state.sendColumn pos).messages.reverse =
      Message.shown state.messages.reverse ++
        shown (state.sendEvents pos) := by
  cases loaded : state.store.column? pos with
  | none =>
      rw [sendColumn_of_not_loaded loaded, sendEvents, sendTasks, loaded]
      exact (List.append_nil _).symm
  | some column =>
      have here :=
        consistent.pos_eq pos column (Store.columns_of_column? loaded)
      rw [(sendColumn_of_loaded loaded).2, List.reverse_cons,
        Message.shown_append, sendEvents, sendTasks, loaded]
      exact congrArg
        (fun place => Message.shown state.messages.reverse ++ [place]) here

theorem shown_sendDue
    (budget : Nat)
    {state : TickState}
    (consistent : state.store.Consistent) :
    Message.shown (state.sendDue budget).messages.reverse =
      Message.shown state.messages.reverse ++
        shown (sendDueEvents budget state) := by
  induction budget generalizing state with
  | zero => exact (List.append_nil _).symm
  | succ budget ih =>
      rw [sendDue, sendDueEvents]
      cases state.store.dirty.pop? with
      | none => exact (List.append_nil _).symm
      | some turn =>
          have taken :
              Store.Consistent { state.store with dirty := turn.2 } :=
            consistent.congr rfl rfl rfl rfl rfl
          rw [ih (taken.sendColumn turn.1), shown_sendColumn taken,
            LightEvent.shown_append, List.append_assoc]

theorem shown_relightDueEvents
    (budget : Nat)
    (state : TickState) :
    shown (relightDueEvents budget state) = [] := by
  induction budget generalizing state with
  | zero => rfl
  | succ budget ih =>
      rw [relightDueEvents]
      split
      · rfl
      · next pos relight _ =>
          have silent (tasks : List LightTask) :
              shown (tasks.map fun task => ⟨pos, task, false⟩) = [] := by
            simp [LightEvent.shown, List.filter_map]
          rw [LightEvent.shown_append, ih, relightEvents, silent]
          rfl

end TickState

namespace Store

/-- The light computations of a tick. -/
def tickEvents (store : Store) (cache : LightCache) : List LightEvent :=
  TickState.sendDueEvents store.settings.scheduler.columnsPerTick
      ⟨store, cache, [], [], ⟨0, 0, 0, 0⟩⟩ ++
    TickState.relightDueEvents store.settings.scheduler.lightUpdatesPerTick
      (store.sentDue cache)

/-- Light is computed in ticks only. -/
def eventsOf (store : Store) : StoreOperation → List LightEvent
  | .tick cache _ => store.tickEvents cache
  | _ => []

/-- An operation is a tick or lights no column. -/
theorem tick_or_eventsOf_eq_nil (operation : StoreOperation) :
    (∃ cache spawned, operation = .tick cache spawned) ∨
      (∀ cache spawned, operation ≠ .tick cache spawned) ∧
        ∀ store : Store, store.eventsOf operation = [] := by
  refine or_iff_not_imp_left.2 fun none => ?_
  have other : ∀ cache spawned, operation ≠ .tick cache spawned :=
    fun cache spawned same => none ⟨cache, spawned, same⟩
  refine ⟨other, fun store => ?_⟩
  rw [eventsOf]
  exact other

/-- All light computations during a list of operations, in order. -/
def lightEvents (store : Store) : List StoreOperation → List LightEvent
  | [] => []
  | operation :: rest =>
      store.eventsOf operation ++ (store.perform operation).1.lightEvents rest

/-- The events of a tick are what it computes. -/
theorem map_task_tickEvents
    (store : Store)
    (cache : LightCache) :
    (store.tickEvents cache).map LightEvent.task = store.tickTasks cache := by
  rw [tickEvents, List.map_append, TickState.map_task_sendDueEvents,
    TickState.map_task_relightDueEvents, tickTasks]

/-! ## Overdue columns wait -/

/-- A sent column that is overdue waits to be lit anew. -/
def QueuesOverdue (store : Store) (events : List LightEvent) : Prop :=
  ∀ neighbor pos, pos ∈ neighbor.neighbors → pos ∈ store.sent →
    Overdue events neighbor pos →
    store.relight.contains pos = true

theorem queuesOverdue_create
    (settings : Settings)
    (converter : Converter) :
    (create settings converter).QueuesOverdue [] :=
  fun neighbor pos _ _ overdue =>
    absurd overdue (not_overdue_nil neighbor pos)

variable {store : Store} {events : List LightEvent}

section

variable (queues : store.QueuesOverdue events)
include queues

/--
It does not matter which columns go, as long as those that stay keep their
place.
-/
theorem QueuesOverdue.mono
    {other : Store}
    (sent : ∀ pos, pos ∈ other.sent → pos ∈ store.sent)
    (waits : ∀ pos, pos ∈ other.sent → store.relight.contains pos = true →
      other.relight.contains pos = true) :
    other.QueuesOverdue events :=
  fun neighbor pos near member overdue =>
    waits pos member (queues neighbor pos near (sent pos member) overdue)

theorem QueuesOverdue.congr
    {other : Store}
    (sent : other.sent = store.sent)
    (relight : other.relight = store.relight) :
    other.QueuesOverdue events := by
  apply queues.mono
  · rw [sent]
    exact fun _ => id
  · rw [relight]
    exact fun _ _ => id

theorem QueuesOverdue.forgetDerived (pos : ColumnPos) :
    (store.forgetDerived pos).QueuesOverdue events := by
  apply queues.mono
  · exact fun other member =>
      ((mem_sent_forgetDerived_iff store pos other).1 member).2
  · intro other member waits
    have apart := ((mem_sent_forgetDerived_iff store pos other).1 member).1
    exact (ColumnQueue.contains_remove_iff _ _ _).2 ⟨apart, waits⟩

/-- What is not a tick sends no column, so that none becomes overdue. -/
theorem QueuesOverdue.perform_of_ne_tick
    {operation : StoreOperation}
    (other : ∀ cache spawned, operation ≠ .tick cache spawned) :
    (store.perform operation).1.QueuesOverdue events := by
  apply derived_induction (·.QueuesOverdue events) _ _ queues other
  · intro store other sent _ _ relight before
    exact before.congr sent relight
  · intro store pos before
    exact before.forgetDerived pos

/--
A column that is sent makes exactly its neighbors overdue, and they join the
queue.
-/
theorem QueuesOverdue.send
    (consistent : store.Consistent)
    (pos : ColumnPos)
    (palettes : Array Palette)
    (light : ColumnLight)
    (task : LightTask) :
    ((store.withSent pos palettes light).relightNeighbors pos).QueuesOverdue
      (events ++ [⟨pos, task, true⟩]) := by
  intro neighbor other near sent overdue
  have frame := (store.withSent pos palettes light).relightNeighbors_eq pos
  rw [frame] at sent
  rw [contains_relight_relightNeighbors_iff]
  rcases (overdue_concat_iff _ _ _ _).1 overdue with
    ⟨rfl, -⟩ | ⟨before, apart⟩
  · refine Or.inr ⟨near, sent, ?_⟩
    rcases Std.TreeSet.mem_insert.1 sent with same | before
    · exact Std.TreeMap.mem_insert.2 (Or.inl same)
    · exact Std.TreeMap.mem_insert.2
        (Or.inr ((consistent.converted_iff other).2 before))
  · rcases Std.TreeSet.mem_insert.1 sent with same | known
    · exact absurd (Std.LawfulEqCmp.eq_of_compare same) apart
    · exact Or.inl (queues neighbor other near known before)

end

end Store

namespace TickState

variable {state : TickState} {events : List LightEvent}

theorem queuesOverdue_sendColumn
    (consistent : state.store.Consistent)
    (queues : state.store.QueuesOverdue events)
    (pos : ColumnPos) :
    (state.sendColumn pos).store.QueuesOverdue
      (events ++ state.sendEvents pos) := by
  cases loaded : state.store.column? pos with
  | none =>
      rw [sendColumn_of_not_loaded loaded, sendEvents, sendTasks, loaded]
      exact (List.append_nil events).symm ▸ queues
  | some column =>
      rw [(sendColumn_of_loaded loaded).1, sendEvents, sendTasks, loaded]
      exact queues.send consistent pos _ _ _

/-- A column that is lit anew leaves the queue, and is not overdue any more. -/
theorem queuesOverdue_relightColumn
    (consistent : state.store.Consistent)
    (queues : state.store.QueuesOverdue events)
    {pos : ColumnPos}
    {rest : ColumnQueue}
    (taken : state.store.relight.pop? = some (pos, rest)) :
    let next : TickState :=
      { state with store := { state.store with relight := rest } }
    (next.relightColumn pos).store.QueuesOverdue
      (events ++ next.relightEvents pos) := by
  intro next
  obtain ⟨waited, remaining⟩ := ColumnQueue.pop?_eq_some taken
  obtain ⟨palettes, converted⟩ :=
    consistent.exists_converted (consistent.sent_of_relight pos waited)
  have known : next.store.converted[pos]? = some palettes := converted
  obtain ⟨light, step, -⟩ := next.exists_light_relightColumn pos
  rw [relightEvents, relightTasks, known, step]
  intro neighbor other near sent overdue
  rcases (overdue_concat_iff _ _ _ _).1 overdue with
    ⟨-, shows⟩ | ⟨before, apart⟩
  · cases shows
  · exact (remaining other).2
      ⟨Ne.symm apart, queues neighbor other near sent before⟩

theorem queuesOverdue_sendDue
    (budget : Nat)
    {state : TickState}
    {events : List LightEvent}
    (consistent : state.store.Consistent)
    (queues : state.store.QueuesOverdue events) :
    (state.sendDue budget).store.QueuesOverdue
      (events ++ sendDueEvents budget state) := by
  induction budget generalizing state events with
  | zero => exact (List.append_nil events).symm ▸ queues
  | succ budget ih =>
      rw [sendDue, sendDueEvents]
      cases state.store.dirty.pop? with
      | none => exact (List.append_nil events).symm ▸ queues
      | some turn =>
          have taken :
              Store.Consistent { state.store with dirty := turn.2 } :=
            consistent.congr rfl rfl rfl rfl rfl
          have waiting :
              Store.QueuesOverdue { state.store with dirty := turn.2 }
                events := queues.congr rfl rfl
          rw [← List.append_assoc]
          exact ih (taken.sendColumn turn.1)
            (@queuesOverdue_sendColumn { state with store := _ } events taken
              waiting turn.1)

theorem queuesOverdue_relightDue
    (budget : Nat)
    {state : TickState}
    {events : List LightEvent}
    (consistent : state.store.Consistent)
    (queues : state.store.QueuesOverdue events) :
    (state.relightDue budget).store.QueuesOverdue
      (events ++ relightDueEvents budget state) := by
  induction budget generalizing state events with
  | zero => exact (List.append_nil events).symm ▸ queues
  | succ budget ih =>
      rw [relightDue, relightDueEvents]
      cases taken : state.store.relight.pop? with
      | none => exact (List.append_nil events).symm ▸ queues
      | some turn =>
          obtain ⟨pos, rest⟩ := turn
          have remaining :
              Store.Consistent { state.store with relight := rest } := by
            apply consistent.queueRelight
            intro other waits
            exact consistent.sent_of_relight other
              (((ColumnQueue.pop?_eq_some taken).2 other).1 waits).2
          rw [← List.append_assoc]
          exact ih (remaining.relightColumn pos)
            (queuesOverdue_relightColumn consistent queues taken)

end TickState

namespace Store

variable {store : Store} {events : List LightEvent}

theorem QueuesOverdue.tick
    (consistent : store.Consistent)
    (queues : store.QueuesOverdue events)
    (cache : LightCache)
    (spawned : Bool) :
    (store.tick cache spawned).1.store.QueuesOverdue
      (events ++ store.tickEvents cache) := by
  let start : TickState := ⟨store, cache, [], [], ⟨0, 0, 0, 0⟩⟩
  have sent : (store.sentDue cache).store.Consistent :=
    @Consistent.sendDue _ start consistent
  have first :=
    @TickState.queuesOverdue_sendDue
      store.settings.scheduler.columnsPerTick start events consistent queues
  have lit :=
    TickState.queuesOverdue_relightDue
      store.settings.scheduler.lightUpdatesPerTick sent first
  rw [List.append_assoc] at lit
  cases spawned with
  | false => exact (store.tick_of_not_spawned cache).1 ▸ lit
  | true => exact (store.tick_of_spawned cache).1 ▸ lit.congr rfl rfl

theorem QueuesOverdue.perform
    (consistent : store.Consistent)
    (queues : store.QueuesOverdue events)
    (operation : StoreOperation) :
    (store.perform operation).1.QueuesOverdue
      (events ++ store.eventsOf operation) := by
  rcases tick_or_eventsOf_eq_nil operation with
    ⟨cache, spawned, rfl⟩ | ⟨other, silent⟩
  · exact queues.tick consistent cache spawned
  · rw [silent, List.append_nil]
    exact queues.perform_of_ne_tick other

theorem QueuesOverdue.run
    {store : Store}
    {events : List LightEvent}
    (consistent : store.Consistent)
    (queues : store.QueuesOverdue events)
    (operations : List StoreOperation) :
    (store.run operations).QueuesOverdue
      (events ++ store.lightEvents operations) := by
  induction operations generalizing store events with
  | nil => exact (List.append_nil events).symm ▸ queues
  | cons operation rest ih =>
      rw [lightEvents, ← List.append_assoc]
      exact ih (consistent.perform operation)
        (queues.perform consistent operation)

/-! ## What the client is shown -/

theorem shown_unloadAll
    (store : Store)
    (positions : List ColumnPos) :
    Message.shown (store.unloadAll positions).2 = [] := by
  apply unloadAll_induction (fun _ told => Message.shown told = [])
  · intro store told pos silent
    rw [Message.shown_append, silent, List.nil_append, Store.unloadColumn]
    split <;> rfl
  · rfl

/--
The columns whose messages an operation sends are those that it lights to show
them.
-/
theorem shown_perform
    (consistent : store.Consistent)
    (operation : StoreOperation) :
    Message.shown (store.perform operation).2 =
      LightEvent.shown (store.eventsOf operation) := by
  cases operation
  case tick cache spawned =>
    have sent :=
      TickState.shown_sendDue store.settings.scheduler.columnsPerTick
        (show (⟨store, cache, [], [],
            ⟨0, 0, 0, 0⟩⟩ : TickState).store.Consistent from consistent)
    rw [Store.perform, shown_tick, eventsOf, tickEvents,
      LightEvent.shown_append, TickState.shown_relightDueEvents,
      List.append_nil]
    exact sent
  case createColumn pos declared =>
    simp only [Store.perform, Store.createColumn]
    split
    · split
      · rfl
      · simp only [recenterMessages]
        split <;> rfl
    · rfl
  case unloadColumn pos =>
    simp only [Store.perform, Store.unloadColumn]
    split <;> rfl
  case setCenter center => exact shown_unloadAll { store with view := _ } _
  case setRadius radius => exact shown_unloadAll { store with view := _ } _
  case mergeSection pos content entities =>
    exact congrArg Message.shown
      (store.mergeSection_eq pos content entities).2
  case changeBlock pos layer source =>
    apply Message.shown_eq_nil
    intro message member
    rw [messages_changeBlock store pos layer source message member]
    rfl
  all_goals rfl

theorem shown_history
    {store : Store}
    (consistent : store.Consistent)
    (operations : List StoreOperation) :
    Message.shown (store.history operations) =
      LightEvent.shown (store.lightEvents operations) := by
  induction operations generalizing store with
  | nil => rfl
  | cons operation rest ih =>
      rw [history, lightEvents, Message.shown_append, LightEvent.shown_append,
        shown_perform consistent operation, ih (consistent.perform operation)]

/--
The columns that a run lights to show them are those whose messages it sends, in
the same order.  And if a column was shown after the light of a neighbor was
computed last, whether to show the neighbor or to light it anew, then the
neighbor, as long as it counts as sent, waits to be lit anew.
-/
theorem overdue_waits_run
    (settings : Settings)
    (converter : Converter)
    (operations : List StoreOperation) :
    let start := create settings converter
    let store := start.run operations
    let events := start.lightEvents operations
    Message.shown (start.history operations) = LightEvent.shown events ∧
      ∀ neighbor pos, pos ∈ neighbor.neighbors → pos ∈ store.sent →
        Overdue events neighbor pos → store.relight.contains pos = true :=
  have consistent := consistent_create settings converter
  ⟨shown_history consistent operations,
    (queuesOverdue_create settings converter).run consistent operations⟩

/-- Settings by which no column is ever lit anew. -/
def unlitSettings : Settings :=
  { Settings.standard with
    scheduler :=
      { Settings.standard.scheduler with lightUpdatesPerTick := 0 } }

/-- Two adjacent columns are shown in one tick. -/
def adjacentRun : List StoreOperation :=
  [.createColumn ⟨0, 0⟩ 24, .createColumn ⟨1, 0⟩ 24, .markDirty ⟨0, 0⟩,
    .markDirty ⟨1, 0⟩, .tick (.create 0 none) false]

/-- The first of two columns that were shown waits to be lit anew. -/
theorem overdue_waits_adjacentRun :
    let start := create unlitSettings bareConverter
    let store := start.run adjacentRun
    (⟨0, 0⟩ : ColumnPos) ∈ (⟨1, 0⟩ : ColumnPos).neighbors ∧
    (⟨0, 0⟩ : ColumnPos) ∈ store.sent ∧
      Overdue (start.lightEvents adjacentRun) ⟨1, 0⟩ ⟨0, 0⟩ ∧
      Message.shown (start.history adjacentRun) = [⟨0, 0⟩, ⟨1, 0⟩] ∧
      store.relight.contains ⟨0, 0⟩ = true := by
  intro start store
  have near : (⟨0, 0⟩ : ColumnPos) ∈ (⟨1, 0⟩ : ColumnPos).neighbors := by
    decide
  have sent : (⟨0, 0⟩ : ColumnPos) ∈ store.sent := by decide +kernel
  have order :
      (start.lightEvents adjacentRun).map
        (fun event => (event.pos, event.shows)) =
      [(⟨0, 0⟩, true), (⟨1, 0⟩, true)] := by
    decide +kernel
  obtain ⟨first, rest, split, -, later⟩ := List.map_eq_cons_iff.1 order
  obtain ⟨second, none, rfl, here, ends⟩ := List.map_eq_cons_iff.1 later
  obtain rfl := List.map_eq_nil_iff.1 ends
  have overdue : Overdue (start.lightEvents adjacentRun) ⟨1, 0⟩ ⟨0, 0⟩ :=
    ⟨[first], second, [], split, congrArg Prod.fst here,
      congrArg Prod.snd here, fun _ absent => absurd absent List.not_mem_nil⟩
  obtain ⟨told, waits⟩ :=
    overdue_waits_run unlitSettings bareConverter adjacentRun
  have shown : LightEvent.shown (start.lightEvents adjacentRun) =
      [⟨0, 0⟩, ⟨1, 0⟩] := by
    decide +kernel
  exact ⟨near, sent, overdue, told.trans shown,
    waits ⟨1, 0⟩ ⟨0, 0⟩ near sent overdue⟩

end Store

end VoxelRelay
