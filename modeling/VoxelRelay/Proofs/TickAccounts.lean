import VoxelRelay.Proofs.CachedLight
import VoxelRelay.Proofs.RequestBatches
import VoxelRelay.Proofs.StoreQueues

/-!
# A tick accounts for its messages

A tick takes the oldest columns from two lines, as many as it has budgets for,
and counts what becomes of each.  Columns that are due are sent if the window
shows them.  Their neighbors that were sent join the line of those that are due
to be lit anew before that line has its turn; and as only columns with converted
blocks ever stand in it, each that is taken from it is lit, and is told if its
light came out different.

The main result is `tick_accounts_of_reachable`.
-/

namespace VoxelRelay

namespace Store

/-! ## Only sent columns are lit anew -/

/--
The columns that were sent have converted blocks, and only they are due to be
lit anew.
-/
structure Relightable (store : Store) : Prop where
  converted_iff : ∀ pos, pos ∈ store.converted ↔ pos ∈ store.sent
  sent_of_relight : ∀ pos, store.relight.contains pos = true →
    pos ∈ store.sent

theorem relightable_create
    (settings : Settings)
    (converter : Converter) :
    (create settings converter).Relightable where
  converted_iff := fun _ => by simp [create]
  sent_of_relight :=
    fun pos waits => absurd waits (ColumnQueue.not_contains_empty pos)

section

variable {store : Store} (relightable : store.Relightable)
include relightable

theorem Relightable.congr
    {other : Store}
    (converted : other.converted = store.converted)
    (sent : other.sent = store.sent)
    (relight : other.relight = store.relight) :
    other.Relightable where
  converted_iff := by
    rw [converted, sent]
    exact relightable.converted_iff
  sent_of_relight := by
    rw [relight, sent]
    exact relightable.sent_of_relight

theorem Relightable.forgetDerived (pos : ColumnPos) :
    (store.forgetDerived pos).Relightable where
  converted_iff := by
    intro other
    have before := relightable.converted_iff other
    simp [Store.forgetDerived, Std.TreeMap.mem_erase, Std.TreeSet.mem_erase,
      before]
  sent_of_relight := by
    intro other waits
    obtain ⟨apart, before⟩ := (ColumnQueue.contains_remove_iff _ _ _).1 waits
    simp only [Store.forgetDerived, Std.TreeSet.mem_erase]
    exact ⟨fun same => apart (Std.LawfulEqCmp.eq_of_compare same).symm,
      relightable.sent_of_relight other before⟩

theorem Relightable.modifyColumn
    (pos : ColumnPos)
    (change : Column → Column) :
    (store.modifyColumn pos change).Relightable := by
  rw [modifyColumn_eq]
  exact relightable.congr rfl rfl rfl

theorem Relightable.withSent
    (pos : ColumnPos)
    (palettes : Array Palette)
    (light : ColumnLight) :
    (store.withSent pos palettes light).Relightable where
  converted_iff := by
    intro other
    simp [Store.withSent, Std.TreeMap.mem_insert, Std.TreeSet.mem_insert,
      relightable.converted_iff other]
  sent_of_relight := fun other waits =>
    Std.TreeSet.mem_insert.2
      (Or.inr (relightable.sent_of_relight other waits))

theorem Relightable.queueRelight
    {queue : ColumnQueue}
    (sent : ∀ pos, queue.contains pos = true → pos ∈ store.sent) :
    Relightable { store with relight := queue } :=
  ⟨relightable.converted_iff, sent⟩

theorem Relightable.pushRelight
    {pos : ColumnPos}
    (sent : pos ∈ store.sent) :
    Relightable { store with relight := store.relight.push pos } := by
  apply relightable.queueRelight
  intro other waits
  rcases (ColumnQueue.contains_push_iff _ _ _).1 waits with rfl | waited
  · exact sent
  · exact relightable.sent_of_relight other waited

theorem Relightable.takeRelight
    {pos : ColumnPos}
    {relight : ColumnQueue}
    (taken : store.relight.pop? = some (pos, relight)) :
    Relightable { store with relight := relight } :=
  relightable.queueRelight fun other waits =>
    relightable.sent_of_relight other
      (((ColumnQueue.pop?_eq_some taken).2 other).1 waits).2

theorem Relightable.relightNeighbors (pos : ColumnPos) :
    (store.relightNeighbors pos).Relightable :=
  relightNeighbors_induction Relightable
    (fun _ _ sent before => before.pushRelight sent) relightable pos

end

section

variable {state : TickState} (relightable : state.store.Relightable)
include relightable

theorem Relightable.sendColumn (pos : ColumnPos) :
    (state.sendColumn pos).store.Relightable := by
  cases loaded : state.store.column? pos with
  | none =>
      rw [TickState.sendColumn_of_not_loaded loaded]
      exact relightable
  | some column =>
      rw [(TickState.sendColumn_of_loaded loaded).1]
      exact (relightable.withSent pos _ _).relightNeighbors pos

theorem Relightable.relightColumn (pos : ColumnPos) :
    (state.relightColumn pos).store.Relightable := by
  obtain ⟨light, relit, -⟩ := state.exists_light_relightColumn pos
  rw [relit]
  exact relightable.congr rfl rfl rfl

theorem Relightable.sendDue (budget : Nat) :
    (state.sendDue budget).store.Relightable := by
  apply TickState.sendDue_induction (·.store.Relightable) _ relightable
  intro state pos dirty _ before
  have taken : Relightable { state.store with dirty := dirty } :=
    before.congr rfl rfl rfl
  exact taken.sendColumn pos

theorem Relightable.relightDue (budget : Nat) :
    (state.relightDue budget).store.Relightable :=
  TickState.relightDue_induction (·.store.Relightable)
    (fun _ pos _ taken before => (before.takeRelight taken).relightColumn pos)
    relightable budget

end

theorem Relightable.tick
    {store : Store}
    (relightable : store.Relightable)
    (cache : LightCache)
    (spawned : Bool) :
    (store.tick cache spawned).1.store.Relightable := by
  let start : TickState := ⟨store, cache, [], [], ⟨0, 0, 0, 0⟩⟩
  have sent :
      (start.sendDue
        store.settings.scheduler.columnsPerTick).store.Relightable :=
    Relightable.sendDue relightable _
  have lit := sent.relightDue store.settings.scheduler.lightUpdatesPerTick
  cases spawned with
  | false => exact lit
  | true => exact lit.congr rfl rfl rfl

theorem Relightable.perform_of_ne_tick
    {store : Store}
    (relightable : store.Relightable)
    {operation : StoreOperation}
    (other : ∀ cache spawned, operation ≠ .tick cache spawned) :
    (store.perform operation).1.Relightable := by
  apply derived_induction Relightable _ _ relightable other
  · intro store other sent converted _ relight before
    exact before.congr converted sent relight
  · intro store pos before
    exact before.forgetDerived pos

theorem Relightable.perform
    {store : Store}
    (relightable : store.Relightable)
    (operation : StoreOperation) :
    (store.perform operation).1.Relightable := by
  cases operation with
  | tick cache spawned => exact relightable.tick cache spawned
  | _ => exact relightable.perform_of_ne_tick fun _ _ same => nomatch same

theorem Reachable.relightable
    {settings : Settings}
    {converter : Converter}
    {store : Store}
    (reachable : Reachable settings converter store) :
    store.Relightable := by
  induction reachable with
  | create => exact relightable_create settings converter
  | perform operation _ before => exact before.perform operation
  | modifyColumn pos change _ before => exact before.modifyColumn pos change

/-! ## The line of columns that are due to be lit anew -/

/--
Those of some columns that are marked join the end of a line unless they stand
in it.
-/
def joinLine
    (marked : Std.TreeSet ColumnPos)
    (line : List ColumnPos)
    (joining : List ColumnPos) : List ColumnPos :=
  joining.foldl (fun line pos =>
    if pos ∈ marked ∧ pos ∉ line then line ++ [pos] else line) line

/--
The columns that were sent, and the line of those to be lit anew, after one more
was sent: its neighbors join if they were sent before it.
-/
def joinAfter
    (state : Std.TreeSet ColumnPos × List ColumnPos)
    (pos : ColumnPos) : Std.TreeSet ColumnPos × List ColumnPos :=
  (state.1.insert pos, joinLine (state.1.insert pos) state.2 pos.neighbors)

theorem toList_relightNeighbors
    {store : Store}
    (ticketed : store.relight.Ticketed)
    (relightable : store.Relightable)
    (pos : ColumnPos) :
    (store.relightNeighbors pos).relight.toList =
      joinLine store.sent store.relight.toList pos.neighbors := by
  unfold Store.relightNeighbors joinLine
  generalize pos.neighbors = neighbors
  induction neighbors generalizing store with
  | nil => rfl
  | cons neighbor rest ih =>
      rw [List.foldl_cons, List.foldl_cons]
      split
      · next due =>
          have sent : neighbor ∈ store.sent := (Bool.and_eq_true_iff.1 due).1
          have joined := ticketed.toList_push neighbor
          have step :
              (if neighbor ∈ store.sent ∧ neighbor ∉ store.relight.toList then
                store.relight.toList ++ [neighbor]
              else store.relight.toList) =
              (store.relight.push neighbor).toList := by
            rw [joined]
            by_cases waits : neighbor ∈ store.relight.toList
            · rw [if_neg fun both => both.2 waits, if_pos waits]
            · rw [if_pos ⟨sent, waits⟩, if_neg waits]
          rw [step]
          exact @ih { store with relight := store.relight.push neighbor }
            (ticketed.push neighbor) (relightable.pushRelight sent)
      · next idle =>
          have unsent : neighbor ∉ store.sent := fun sent => idle
            (Bool.and_eq_true_iff.2
              ⟨sent, (relightable.converted_iff neighbor).2 sent⟩)
          rw [if_neg fun both => unsent both.1]
          exact ih ticketed relightable

end Store

/-! ## Columns that are due -/

/-- Columns that stand at their positions are known by them. -/
theorem Store.map_pos_filterMap_column?
    (store : Store)
    (homes : ∀ pos column, store.column? pos = some column → column.pos = pos)
    (turn : List ColumnPos) :
    (turn.filterMap store.column?).map Column.pos =
      turn.filter store.isLoaded := by
  induction turn with
  | nil => rfl
  | cons pos rest ih =>
      cases loaded : store.column? pos with
      | none =>
          have hidden : ¬ store.isLoaded pos = true := by
            simp [Store.isLoaded, loaded]
          rw [List.filterMap_cons_none loaded, List.filter_cons_of_neg hidden,
            ih]
      | some column =>
          have shown : store.isLoaded pos = true := by
            simp [Store.isLoaded, loaded]
          rw [List.filterMap_cons_some loaded, List.filter_cons_of_pos shown,
            List.map_cons, ih, homes pos column loaded]

namespace TickState

/--
Between two states some columns had their turn, and those that the window
shows were sent.
-/
structure Sent
    (before after : TickState)
    (turn : List ColumnPos)
    (columns : List (TargetColumn × LightPayload)) : Prop where
  sameView : before.store.SameView after.store
  messages_eq :
    after.messages =
      (columns.map fun sent => .column sent.1 sent.2).reverse ++
        before.messages
  columns_eq : columns.map Prod.fst =
    (turn.filterMap before.store.column?).map before.target
  report_eq : after.report =
    { before.report with
      columnsSent := before.report.columnsSent + columns.length }
  line_eq : (after.store.sent, after.store.relight.toList) =
    (turn.filter before.store.isLoaded).foldl Store.joinAfter
      (before.store.sent, before.store.relight.toList)

theorem Sent.trans
    {first second last : TickState}
    {turn more : List ColumnPos}
    {columns others : List (TargetColumn × LightPayload)}
    (sent : Sent first second turn columns)
    (later : Sent second last more others) :
    Sent first last (turn ++ more) (columns ++ others) where
  sameView := sent.sameView.trans later.sameView
  messages_eq := by
    rw [later.messages_eq, sent.messages_eq, List.map_append,
      List.reverse_append, List.append_assoc]
  columns_eq := by
    have shown : second.store.column? = first.store.column? :=
      funext sent.sameView.column?_eq
    have forms : second.target = first.target :=
      funext sent.sameView.convert_eq
    rw [List.map_append, sent.columns_eq, later.columns_eq, shown, forms,
      List.filterMap_append, List.map_append]
  report_eq := by
    rw [later.report_eq, sent.report_eq, List.length_append, ← Nat.add_assoc]
  line_eq := by
    have shown : second.store.isLoaded = first.store.isLoaded :=
      funext fun pos => congrArg Option.isSome (sent.sameView.column?_eq pos)
    rw [later.line_eq, sent.line_eq, shown, List.filter_append,
      List.foldl_append]

/-- Columns that stand at their positions are told by them. -/
theorem Sent.map_pos_eq
    {before after : TickState}
    {turn : List ColumnPos}
    {columns : List (TargetColumn × LightPayload)}
    (sent : Sent before after turn columns)
    (homes : ∀ pos column, before.store.column? pos = some column →
      column.pos = pos) :
    columns.map (·.1.pos) = turn.filter before.store.isLoaded := by
  calc columns.map (·.1.pos)
      = (columns.map Prod.fst).map TargetColumn.pos := List.map_map.symm
    _ = ((turn.filterMap before.store.column?).map before.target).map
      TargetColumn.pos := by
        rw [sent.columns_eq]
    _ = (turn.filterMap before.store.column?).map Column.pos := List.map_map
    _ = turn.filter before.store.isLoaded :=
      before.store.map_pos_filterMap_column? homes turn

variable {state : TickState}

/-- Nothing happens by taking a column from its line. -/
theorem sent_withDirty
    (state : TickState)
    (dirty : ColumnQueue) :
    Sent state { state with store := { state.store with dirty := dirty } } []
      [] where
  sameView := ⟨rfl, rfl, rfl, rfl⟩
  messages_eq := rfl
  columns_eq := rfl
  report_eq := rfl
  line_eq := rfl

theorem exists_sent_sendColumn
    (ticketed : state.store.relight.Ticketed)
    (relightable : state.store.Relightable)
    (pos : ColumnPos) :
    ∃ columns, Sent state (state.sendColumn pos) [pos] columns := by
  cases loaded : state.store.column? pos with
  | none =>
      have hidden : state.store.isLoaded pos = false := by
        rw [Store.isLoaded, loaded]
        rfl
      rw [sendColumn_of_not_loaded loaded]
      refine ⟨[], .refl _, rfl, ?_, rfl, ?_⟩
      · rw [List.filterMap_cons_none loaded]
        rfl
      · rw [List.filter_cons_of_neg (Bool.eq_false_iff.1 hidden)]
        rfl
  | some column =>
      have shown : state.store.isLoaded pos = true := by
        rw [Store.isLoaded, loaded]
        rfl
      have view := state.sameView_sendColumn pos
      let task := state.sendTask pos column
      let answer := state.cache.getOrCompute task.properties task.input
      have sent : state.sendColumn pos = state.sentWith pos column answer :=
        sendColumn_eq_sentWith loaded
      have marked : (state.sendColumn pos).store.sent =
          state.store.sent.insert pos := by
        rw [sent, sentWith, Store.relightNeighbors_eq]
        rfl
      have line : (state.sendColumn pos).store.relight.toList =
          Store.joinLine (state.store.sent.insert pos)
            state.store.relight.toList pos.neighbors := by
        let before :=
          state.store.withSent pos (state.target column).palettes answer.1
        have waiting : before.relight.Ticketed := ticketed
        rw [sent]
        exact Store.toList_relightNeighbors waiting
          (relightable.withSent pos _ _) pos
      refine ⟨[(state.target column, .ofLight answer.1)], view, ?_, ?_, ?_,
        ?_⟩
      · rw [sent]
        rfl
      · rw [List.filterMap_cons_some loaded]
        rfl
      · rw [sent]
        rfl
      · rw [marked, line, List.filter_cons_of_pos shown, List.filter_nil,
          List.foldl_cons,
          List.foldl_nil, Store.joinAfter]

/-- The oldest due columns have their turn, as many as there is budget for. -/
theorem exists_sent_sendDue
    (budget : Nat)
    (inOrder : state.store.InOrder)
    (relightable : state.store.Relightable) :
    ∃ columns, Sent state (state.sendDue budget)
      (state.store.dirty.toList.take budget) columns ∧
      (state.sendDue budget).store.dirty.toList =
        state.store.dirty.toList.drop budget := by
  induction budget generalizing state with
  | zero => exact ⟨[], state.sent_withDirty _, rfl⟩
  | succ budget ih =>
      rw [sendDue]
      split
      · next none =>
          rw [inOrder.dirty.toList_of_pop?_eq_none none]
          exact ⟨[], state.sent_withDirty _, rfl⟩
      · next pos dirty taken =>
          let next : TickState :=
            { state with store := { state.store with dirty := dirty } }
          have order : next.store.InOrder :=
            ⟨inOrder.dirty.pop? taken, inOrder.relight⟩
          have lightable : next.store.Relightable :=
            relightable.congr rfl rfl rfl
          obtain ⟨first, here⟩ :=
            exists_sent_sendColumn order.relight lightable pos
          obtain ⟨others, later, left⟩ :=
            ih (order.sendColumn pos) (lightable.sendColumn pos)
          rw [dirty_sendColumn] at later left
          rw [inOrder.dirty.toList_of_pop?_eq_some taken]
          exact ⟨_, ((state.sent_withDirty dirty).trans here).trans later,
            left⟩

end TickState

/-! ## Columns that are due to be lit anew -/

/--
Whether other light is stored for a column than in an earlier state of the
store.
-/
def Store.relitSince (before after : Store) (pos : ColumnPos) : Bool :=
  after.light[pos]? != before.light[pos]?

namespace TickState

/--
Between two states some columns were lit anew, and those that got other light
were told.
-/
structure Relit
    (before after : TickState)
    (turn : List ColumnPos)
    (lights : List (ColumnPos × LightPayload)) : Prop where
  light_eq : ∀ pos, pos ∉ turn →
    after.store.light[pos]? = before.store.light[pos]?
  messages_eq :
    after.messages =
      (lights.map fun lit => .light lit.1 lit.2).reverse ++ before.messages
  lights_eq : lights.map Prod.fst =
    turn.filter (before.store.relitSince after.store)
  report_eq : after.report =
    { before.report with
      lightUpdatesSent := before.report.lightUpdatesSent + lights.length
      relightsUnchanged := before.report.relightsUnchanged +
        turn.countP (!before.store.relitSince after.store ·) }

theorem Relit.trans
    {first second last : TickState}
    {turn more : List ColumnPos}
    {lights others : List (ColumnPos × LightPayload)}
    (relit : Relit first second turn lights)
    (later : Relit second last more others)
    (once : ∀ pos ∈ turn, pos ∉ more) :
    Relit first last (turn ++ more) (lights ++ others) := by
  -- A column is lit in one of the two parts, and the other part leaves its
  -- light as it is.
  have early : ∀ pos ∈ turn, first.store.relitSince last.store pos =
      first.store.relitSince second.store pos := by
    intro pos member
    rw [Store.relitSince, Store.relitSince,
      later.light_eq pos (once pos member)]
  have late : ∀ pos ∈ more, first.store.relitSince last.store pos =
      second.store.relitSince last.store pos := by
    intro pos member
    have before : pos ∉ turn := fun taken => once pos taken member
    rw [Store.relitSince, Store.relitSince, relit.light_eq pos before]
  refine ⟨?_, ?_, ?_, ?_⟩
  · intro pos apart
    obtain ⟨notEarly, notLate⟩ := not_or.1 (mt List.mem_append.2 apart)
    rw [later.light_eq pos notLate, relit.light_eq pos notEarly]
  · rw [later.messages_eq, relit.messages_eq, List.map_append,
      List.reverse_append,
      List.append_assoc]
  · rw [List.map_append, relit.lights_eq, later.lights_eq, List.filter_append,
      List.filter_congr early, List.filter_congr late]
  · have unchanged :
        ∀ {part : List ColumnPos} {whole here : ColumnPos → Bool},
        (∀ pos ∈ part, whole pos = here pos) →
          part.countP (!whole ·) = part.countP (!here ·) := by
      intro part whole here same
      exact List.countP_congr fun pos member => by rw [same pos member]
    rw [later.report_eq, relit.report_eq, List.length_append,
      List.countP_append, unchanged early, unchanged late, Nat.add_assoc,
      Nat.add_assoc]

/-- Each column that was lit anew was told or kept its light. -/
theorem Relit.length_add_countP
    {before after : TickState}
    {turn : List ColumnPos}
    {lights : List (ColumnPos × LightPayload)}
    (relit : Relit before after turn lights) :
    lights.length + turn.countP (!before.store.relitSince after.store ·) =
      turn.length := by
  have told : lights.length =
      turn.countP (before.store.relitSince after.store) := by
    rw [List.countP_eq_length_filter, ← relit.lights_eq, List.length_map]
  have kept : turn.countP (!before.store.relitSince after.store ·) =
      turn.countP fun pos =>
        decide ¬ before.store.relitSince after.store pos = true :=
    List.countP_congr fun pos _ => by simp
  rw [told, kept]
  exact (List.length_eq_countP_add_countP _).symm

theorem isNew_iff
    (state : TickState)
    (pos : ColumnPos)
    (light : ColumnLight) :
    state.isNew pos light = true ↔ state.store.light[pos]? ≠ some light := by
  unfold isNew
  split
  · next old known =>
      rw [known]
      constructor
      · rintro differs same
        obtain rfl := Option.some.inj same
        simp [ColumnLight.differs, LightData.differs] at differs
      · intro other
        by_contra same
        exact other (congrArg some
          (ColumnLight.eq_of_differs_eq_false
            (Bool.eq_false_iff.2 same)).symm)
  · next unknown =>
      rw [unknown]
      exact iff_of_true rfl (Option.some_ne_none light).symm

/-- Nothing happens by taking a column from its line. -/
theorem relit_withRelight
    (state : TickState)
    (relight : ColumnQueue) :
    Relit state
      { state with store := { state.store with relight := relight } } []
      [] where
  light_eq := fun _ _ => rfl
  messages_eq := rfl
  lights_eq := rfl
  report_eq := rfl

/--
A column with converted blocks gets other light, and the client is told, or
keeps its own.
-/
theorem exists_relit_relightColumn
    {state : TickState}
    {pos : ColumnPos}
    (converted : pos ∈ state.store.converted) :
    ∃ lights, Relit state (state.relightColumn pos) [pos] lights := by
  obtain ⟨palettes, known⟩ :
      ∃ palettes, state.store.converted[pos]? = some palettes :=
    ⟨_, Std.TreeMap.getElem?_eq_some_getElem converted⟩
  let task := state.relightTask pos palettes
  let answer := state.cache.getOrCompute task.properties task.input
  have done : state.relightColumn pos = state.relitWith pos answer :=
    relightColumn_eq_relitWith known
  rw [done]
  cases new : state.isNew pos answer.1 with
  | true =>
      have other := (state.isNew_iff pos answer.1).1 new
      have stored : (state.store.withLight pos answer.1).light[pos]? =
          some answer.1 :=
        Std.TreeMap.getElem?_insert_self
      have relit :
          state.store.relitSince (state.store.withLight pos answer.1)
            pos = true := by
        rw [Store.relitSince, stored]
        exact bne_iff_ne.2 other.symm
      rw [relitWith, if_pos new]
      refine ⟨[(pos, .ofLight answer.1)], ?_, rfl, ?_, ?_⟩
      · intro next apart
        have distinct : compare pos next ≠ .eq := fun same =>
          apart
            (List.mem_singleton.2 (Std.LawfulEqCmp.eq_of_compare same).symm)
        exact (Std.TreeMap.getElem?_insert ..).trans (if_neg distinct)
      · rw [List.filter_cons_of_pos relit]
        rfl
      · rw [List.countP_cons_of_neg (by simp [relit])]
        rfl
  | false =>
      have same : state.store.relitSince state.store pos = false :=
        bne_self_eq_false _
      rw [relitWith, if_neg (Bool.eq_false_iff.1 new)]
      refine ⟨[], fun _ _ => rfl, rfl, ?_, ?_⟩
      · rw [List.filter_cons_of_neg (Bool.eq_false_iff.1 same)]
        rfl
      · rw [List.countP_cons_of_pos (by simp [same])]
        rfl

/--
The columns that have waited longest are lit anew, as many as there is budget
for.
-/
theorem exists_relit_relightDue
    (budget : Nat)
    (inOrder : state.store.InOrder)
    (relightable : state.store.Relightable) :
    ∃ lights,
      Relit state (state.relightDue budget)
        (state.store.relight.toList.take budget) lights ∧
      (state.relightDue budget).store.relight.toList =
        state.store.relight.toList.drop budget := by
  induction budget generalizing state with
  | zero => exact ⟨[], state.relit_withRelight _, rfl⟩
  | succ budget ih =>
      rw [relightDue]
      split
      · next none =>
          rw [inOrder.relight.toList_of_pop?_eq_none none]
          exact ⟨[], state.relit_withRelight _, rfl⟩
      · next pos relight taken =>
          let next : TickState :=
            { state with store := { state.store with relight := relight } }
          have line := inOrder.relight.toList_of_pop?_eq_some taken
          have waited := (ColumnQueue.pop?_eq_some taken).1
          have order : next.store.InOrder :=
            ⟨inOrder.dirty, inOrder.relight.pop? taken⟩
          have lightable : next.store.Relightable :=
            relightable.takeRelight taken
          have converted : pos ∈ next.store.converted :=
            (relightable.converted_iff pos).2
              (relightable.sent_of_relight pos waited)
          have queue : (next.relightColumn pos).store.relight = relight := by
            obtain ⟨light, relit, -⟩ := next.exists_light_relightColumn pos
            rw [relit]
          have once : pos ∉ relight.toList := by
            have nodup := inOrder.relight.nodup_toList
            rw [line] at nodup
            exact (List.nodup_cons.1 nodup).1
          obtain ⟨first, here⟩ := exists_relit_relightColumn converted
          obtain ⟨others, later, left⟩ :=
            ih (order.relightColumn pos) (lightable.relightColumn pos)
          rw [queue] at later left
          rw [line]
          refine ⟨_,
            ((state.relit_withRelight relight).trans here ?_).trans later ?_,
            left⟩
          · exact fun _ nowhere => absurd nowhere List.not_mem_nil
          · intro other member again
            obtain rfl := List.mem_singleton.1 member
            exact once (List.mem_of_mem_take again)

end TickState

/-! ## Ticks -/

namespace Store

/-- The columns that a tick takes from the line of those that are due. -/
def dueTurn (store : Store) : List ColumnPos :=
  store.dirty.toList.take store.settings.scheduler.columnsPerTick

/--
The line of columns to be lit anew, once a tick has sent those that are due.
-/
def relightLine (store : Store) : List ColumnPos :=
  ((store.dueTurn.filter store.isLoaded).foldl joinAfter
    (store.sent, store.relight.toList)).2

/-- The columns that a tick takes from that line. -/
def relightTurn (store : Store) : List ColumnPos :=
  store.relightLine.take store.settings.scheduler.lightUpdatesPerTick

/--
A tick put out columns, then light alone, then requests, and did nothing else
with the columns that it took from their lines.
-/
structure TickAccount
    (store : Store)
    (cache : LightCache)
    (outcome : Outcome TickReport)
    (columns : List (TargetColumn × LightPayload))
    (lights : List (ColumnPos × LightPayload))
    (batches : List SectionRequest) : Prop where
  messages_eq : outcome.messages =
    (columns.map fun sent => .column sent.1 sent.2) ++
      (lights.map fun lit => .light lit.1 lit.2) ++ batches.map .request
  columnsSent_eq : outcome.value.columnsSent = columns.length
  lightUpdatesSent_eq : outcome.value.lightUpdatesSent = lights.length
  requestBatches_eq : outcome.value.requestBatches = batches.length
  length_dueTurn :
    store.dueTurn.length =
      min store.settings.scheduler.columnsPerTick store.dirty.size
  dirty_eq : store.dirty.toList = store.dueTurn ++ outcome.store.dirty.toList
  /-- Of the columns that were due, those that the window shows are sent. -/
  columns_eq : columns.map Prod.fst =
    (store.dueTurn.filterMap store.column?).map
      (store.converter.convert · store.minY)
  /--
  They are told by their positions, unless the owner of the store put others
  in their place.
  -/
  shown_eq :
    (∀ pos column, store.column? pos = some column → column.pos = pos) →
    columns.map (·.1.pos) = store.dueTurn.filter store.isLoaded
  line_eq : (store.sentDue cache).store.relight.toList = store.relightLine
  length_relightTurn : store.relightTurn.length =
    min store.settings.scheduler.lightUpdatesPerTick
      (store.sentDue cache).store.relight.size
  relight_eq : store.relightLine =
    store.relightTurn ++ outcome.store.relight.toList
  /-- Of the columns that were lit anew, those that got other light are told. -/
  lights_eq : lights.map Prod.fst =
    store.relightTurn.filter
      ((store.sentDue cache).store.relitSince outcome.store)
  relightsUnchanged_eq : outcome.value.relightsUnchanged =
    store.relightTurn.countP
      (!(store.sentDue cache).store.relitSince outcome.store ·)
  counted : outcome.value.lightUpdatesSent + outcome.value.relightsUnchanged =
    store.relightTurn.length

/--
Only the last step of a tick asks for sections, and it leaves lines and light
alone.
-/
theorem tick_eq_of_litDue
    (store : Store)
    (cache : LightCache)
    (spawned : Bool) :
    let outcome := (store.tick cache spawned).1
    let lit := store.litDue cache
    let batches := if spawned then store.requests else []
    outcome.messages = lit.messages.reverse ++ batches.map .request ∧
      outcome.value = { lit.report with requestBatches := batches.length } ∧
      outcome.store.dirty = lit.store.dirty ∧
      outcome.store.relight = lit.store.relight ∧
      outcome.store.light = lit.store.light := by
  intro outcome lit batches
  cases spawned with
  | false =>
      have none : lit.report.requestBatches = 0 :=
        store.requestBatches_litDue cache
      have report : outcome.value =
          { lit.report with requestBatches := 0 } := by
        rw [← none]
        rfl
      exact ⟨(List.append_nil _).symm, report, rfl, rfl, rfl⟩
  | true =>
      have asked : lit.store.requests = store.requests :=
        store.requests_litDue cache
      have report : outcome.value =
          { lit.report with requestBatches := store.requests.length } := by
        rw [← asked]
        rfl
      refine ⟨?_, report, rfl, rfl, rfl⟩
      exact (store.tick_of_spawned cache).2.trans (asked ▸ rfl)

theorem InOrder.sentDue
    {store : Store}
    (inOrder : store.InOrder)
    (cache : LightCache) :
    (store.sentDue cache).store.InOrder := by
  let start : TickState := ⟨store, cache, [], [], ⟨0, 0, 0, 0⟩⟩
  have first : start.store.InOrder := inOrder
  exact first.sendDue _

section

variable
    {settings : Settings}
    {converter : Converter}
    {store : Store}
    (reachable : Reachable settings converter store)
    (cache : LightCache)
include reachable

theorem exists_sent_sentDue :
    ∃ columns,
      TickState.Sent ⟨store, cache, [], [], ⟨0, 0, 0, 0⟩⟩
        (store.sentDue cache) store.dueTurn columns ∧
      store.dirty.toList =
        store.dueTurn ++ (store.sentDue cache).store.dirty.toList := by
  let start : TickState := ⟨store, cache, [], [], ⟨0, 0, 0, 0⟩⟩
  have inOrder : start.store.InOrder := reachable.inOrder
  have relightable : start.store.Relightable := reachable.relightable
  obtain ⟨columns, sent, left⟩ :=
    TickState.exists_sent_sendDue store.settings.scheduler.columnsPerTick
      inOrder relightable
  refine ⟨columns, sent, ?_⟩
  rw [show (store.sentDue cache).store.dirty.toList = _ from left]
  exact (List.take_append_drop _ _).symm

theorem exists_relit_litDue
    (line : (store.sentDue cache).store.relight.toList = store.relightLine) :
    ∃ lights,
      TickState.Relit (store.sentDue cache) (store.litDue cache)
        store.relightTurn lights ∧
      store.relightLine =
        store.relightTurn ++ (store.litDue cache).store.relight.toList := by
  let start : TickState := ⟨store, cache, [], [], ⟨0, 0, 0, 0⟩⟩
  have relightable : start.store.Relightable := reachable.relightable
  obtain ⟨lights, relit, left⟩ :=
    TickState.exists_relit_relightDue
      store.settings.scheduler.lightUpdatesPerTick
      (reachable.inOrder.sentDue cache) (relightable.sendDue _)
  rw [line] at relit left
  refine ⟨lights, relit, ?_⟩
  rw [show (store.litDue cache).store.relight.toList = _ from left]
  exact (List.take_append_drop _ _).symm

end

theorem dirty_litDue
    (store : Store)
    (cache : LightCache) :
    (store.litDue cache).store.dirty = (store.sentDue cache).store.dirty := by
  obtain ⟨light, relight, done, -⟩ :=
    (store.sentDue cache).exists_withRelit_relightDue
      store.settings.scheduler.lightUpdatesPerTick
  rw [litDue, done]
  rfl

/--
In whatever state a store is, a tick puts out columns, then light alone, then
requests, as many as its report says.  From the line of columns that are due it
takes the oldest, as many as there is budget for, and sends those that the
window shows; and from the line of columns that are due to be lit anew, which
neighbors of columns just sent have joined, it takes the oldest, as many as
there is budget for, and each is either told or counted as unchanged.
-/
theorem tick_accounts_of_reachable
    {settings : Settings}
    {converter : Converter}
    {store : Store}
    (reachable : Reachable settings converter store)
    (cache : LightCache)
    (spawned : Bool) :
    ∃ columns lights,
      store.TickAccount cache (store.tick cache spawned).1 columns lights
      (if spawned then store.requests else []) := by
  obtain ⟨columns, sent, stillDue⟩ := exists_sent_sentDue reachable cache
  have line : (store.sentDue cache).store.relight.toList =
      store.relightLine :=
    congrArg Prod.snd sent.line_eq
  obtain ⟨lights, relit, stillDim⟩ := exists_relit_litDue reachable cache line
  obtain ⟨messages, report, dirty, relight, light⟩ :=
    store.tick_eq_of_litDue cache spawned
  have relitSince :
      (store.sentDue cache).store.relitSince
        (store.tick cache spawned).1.store =
      (store.sentDue cache).store.relitSince (store.litDue cache).store := by
    funext pos
    rw [Store.relitSince, Store.relitSince, light]
  have sentReport :
      (store.sentDue cache).report = ⟨columns.length, 0, 0, 0⟩ :=
    sent.report_eq.trans (by rw [Nat.zero_add])
  have lightUpdates :
      (store.tick cache spawned).1.value.lightUpdatesSent =
        lights.length := by
    rw [report, relit.report_eq, sentReport]
    exact Nat.zero_add _
  have unchanged : (store.tick cache spawned).1.value.relightsUnchanged =
      store.relightTurn.countP
        (!(store.sentDue cache).store.relitSince
          (store.litDue cache).store ·) := by
    rw [report, relit.report_eq, sentReport]
    exact Nat.zero_add _
  refine ⟨columns, lights, ?_⟩
  constructor
  case messages_eq =>
    have sentMessages : (store.sentDue cache).messages =
        (columns.map fun sent => Message.column sent.1 sent.2).reverse :=
      sent.messages_eq.trans (List.append_nil _)
    rw [messages, relit.messages_eq, sentMessages, List.reverse_append,
      List.reverse_reverse, List.reverse_reverse]
  case columnsSent_eq => rw [report, relit.report_eq, sentReport]
  case lightUpdatesSent_eq => exact lightUpdates
  case requestBatches_eq => rw [report]
  case length_dueTurn =>
      rw [dueTurn, List.length_take, reachable.inOrder.dirty.size_eq]
  case dirty_eq => rw [dirty, dirty_litDue, ← stillDue]
  case columns_eq => exact sent.columns_eq
  case shown_eq => exact sent.map_pos_eq
  case line_eq => exact line
  case length_relightTurn =>
    have inOrder := reachable.inOrder.sentDue cache
    rw [relightTurn, List.length_take, inOrder.relight.size_eq, line]
  case relight_eq => rw [relight, ← stillDim]
  case lights_eq => rw [relitSince, relit.lights_eq]
  case relightsUnchanged_eq => rw [unchanged, relitSince]
  case counted => rw [lightUpdates, unchanged, relit.length_add_countP]

/--
A store in which the neighbor of a column that was sent is due, and one that
does not exist.
-/
def besideStore : Store :=
  (create .standard bareConverter).run
    [.createColumn ⟨0, 0⟩ 0, .createColumn ⟨1, 0⟩ 0, .markDirty ⟨0, 0⟩,
      .tick (.create 0 none) false, .markDirty ⟨1, 0⟩, .markDirty ⟨2, 0⟩]

/--
One of two columns is sent, and the other one beside it is lit anew in the
same tick.
-/
theorem tick_accounts_besideStore :
    besideStore.dueTurn = [⟨1, 0⟩, ⟨2, 0⟩] ∧
      besideStore.dueTurn.filter besideStore.isLoaded = [⟨1, 0⟩] ∧
      besideStore.relight.size = 0 ∧ besideStore.relightTurn = [⟨0, 0⟩] ∧
      Reachable .standard bareConverter besideStore ∧
      ∃ columns lights, besideStore.TickAccount (.create 0 none)
        (besideStore.tick (.create 0 none) true).1 columns lights
        besideStore.requests :=
  ⟨rfl, rfl, rfl, rfl, reachable_run .standard bareConverter _,
    tick_accounts_of_reachable (reachable_run .standard bareConverter _)
      (.create 0 none) true⟩

end Store

end VoxelRelay
