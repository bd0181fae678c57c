import VoxelRelay.Proofs.DueColumns
import VoxelRelay.Proofs.StoreQueues

/-!
# Windows that move

When the center of the window moves or its radius changes, the store unloads the
columns that lie outside the new window, one after the other in ascending order,
and tells the client of each.  Columns are unloaded from six collections.
Dropping several from a collection leaves of it what belongs to no column that
was dropped, in whatever order they are dropped, so that every other column is
kept with all that was derived from it, and the queues go on with the others in
the same order.

The main result is `unloadsOutsiders_of_reachable`.
-/

namespace VoxelRelay

namespace ColumnPos

/-- The order in which columns are unloaded: by `x`, then by `z`. -/
def Precedes (first second : ColumnPos) : Prop :=
  first.x < second.x ∨ first.x = second.x ∧ first.z < second.z

theorem compare_eq_lt_iff (first second : ColumnPos) :
    compare first second = .lt ↔ first.Precedes second := by
  have split : compare first second = (compare first.x second.x).then
      (compare first.z second.z) := rfl
  rw [split, Ordering.then_eq_lt, Std.compare_eq_lt, Std.compare_eq_lt,
    Std.compare_eq_iff_eq, Precedes]

end ColumnPos

/-! ## Dropping several columns -/

theorem getElem?_foldl_erase
    {Kept : Type}
    (gone : List ColumnPos)
    (entries : Std.TreeMap ColumnPos Kept)
    (pos : ColumnPos) :
    (gone.foldl (·.erase ·) entries)[pos]? = if pos ∈ gone then none
      else entries[pos]? := by
  induction gone generalizing entries with
  | nil => exact (if_neg List.not_mem_nil).symm
  | cons first rest ih =>
      rw [List.foldl_cons, ih, Std.TreeMap.getElem?_erase]
      simp only [Std.compare_eq_iff_eq, List.mem_cons, @eq_comm _ first]
      split
      · next later => rw [if_pos (Or.inr later)]
      · next absent => simp only [or_iff_left absent]

theorem mem_foldl_erase_iff
    (gone : List ColumnPos)
    (positions : Std.TreeSet ColumnPos)
    (pos : ColumnPos) :
    pos ∈ gone.foldl (·.erase ·) positions ↔
      pos ∉ gone ∧ pos ∈ positions := by
  induction gone generalizing positions with
  | nil => exact (and_iff_right List.not_mem_nil).symm
  | cons first rest ih =>
      rw [List.foldl_cons, ih, Std.TreeSet.mem_erase, ne_eq,
        Std.compare_eq_iff_eq, List.mem_cons, not_or, @eq_comm _ first,
        and_assoc, and_left_comm]

namespace ColumnQueue

theorem contains_foldl_remove_iff
    (gone : List ColumnPos)
    (queue : ColumnQueue)
    (pos : ColumnPos) :
    (gone.foldl remove queue).contains pos = true ↔
      pos ∉ gone ∧ queue.contains pos = true := by
  induction gone generalizing queue with
  | nil => exact (and_iff_right List.not_mem_nil).symm
  | cons first rest ih =>
      rw [List.foldl_cons, ih, contains_remove_iff, List.mem_cons, not_or,
        and_assoc, and_left_comm]

/-- The others keep their order. -/
theorem toList_foldl_remove
    (gone : List ColumnPos)
    (queue : ColumnQueue) :
    (gone.foldl remove queue).toList = queue.toList.filter (· ∉ gone) := by
  induction gone generalizing queue with
  | nil => exact (List.filter_eq_self.2 fun _ _ => rfl).symm
  | cons first rest ih =>
      rw [List.foldl_cons, ih, toList_remove, List.filter_filter]
      apply List.filter_congr
      intro pos _
      rw [← Bool.decide_and, decide_eq_decide, List.mem_cons, not_or,
        and_comm]

theorem ticketed_foldl_remove
    {queue : ColumnQueue}
    (ticketed : queue.Ticketed)
    (gone : List ColumnPos) :
    (gone.foldl remove queue).Ticketed := by
  induction gone generalizing queue with
  | nil => exact ticketed
  | cons first rest ih => exact ih (ticketed.remove first)

/--
Whatever is asked of a queue, it answers as a list of waiting columns does.
-/
def AnswersAs (queue : ColumnQueue) (waiting : List ColumnPos) : Prop :=
  ∀ calls, QueueCall.transcript QueueCall.onQueue queue calls =
    QueueCall.transcript QueueCall.onList waiting calls

theorem Ticketed.answersAs
    {queue : ColumnQueue}
    (ticketed : queue.Ticketed) :
    queue.AnswersAs queue.toList :=
  fun calls => (QueueCall.transcript_eq_of_ticketed ticketed calls).1

/--
A queue goes on without those that were dropped as it would have gone on with
them.
-/
theorem Ticketed.exists_answersAs_foldl_remove
    {queue : ColumnQueue}
    (ticketed : queue.Ticketed)
    (gone : List ColumnPos) :
    ∃ waiting, queue.AnswersAs waiting ∧
      (gone.foldl ColumnQueue.remove queue).AnswersAs
        (waiting.filter (· ∉ gone)) := by
  refine ⟨queue.toList, ticketed.answersAs, ?_⟩
  rw [← toList_foldl_remove]
  exact (ticketed_foldl_remove ticketed gone).answersAs

end ColumnQueue

/-! ## Unloading several columns -/

namespace Store

/-- A store without some columns and what was derived from them. -/
def without (store : Store) (gone : List ColumnPos) : Store :=
  { store with
    columns := gone.foldl (·.erase ·) store.columns
    dirty := gone.foldl .remove store.dirty
    sent := gone.foldl (·.erase ·) store.sent
    converted := gone.foldl (·.erase ·) store.converted
    light := gone.foldl (·.erase ·) store.light
    relight := gone.foldl .remove store.relight }

/-- What the client is told when columns are unloaded. -/
def farewells (gone : List ColumnPos) : List Message :=
  gone.flatMap fun pos => [.detach (.column pos), .forget pos]

theorem unloadColumn_of_loaded
    {store : Store}
    {pos : ColumnPos}
    (loaded : pos ∈ store.columns) :
    (store.unloadColumn pos).store = store.without [pos] ∧
      (store.unloadColumn pos).messages = farewells [pos] := by
  rw [Std.TreeMap.mem_iff_isSome_getElem?, Option.isSome_iff_exists] at loaded
  obtain ⟨column, known⟩ := loaded
  rw [unloadColumn, known]
  exact ⟨rfl, rfl⟩

theorem mem_columns_without_iff
    (store : Store)
    (gone : List ColumnPos)
    (pos : ColumnPos) :
    pos ∈ (store.without gone).columns ↔
      pos ∉ gone ∧ pos ∈ store.columns := by
  rw [Std.TreeMap.mem_iff_isSome_getElem?,
    Std.TreeMap.mem_iff_isSome_getElem?, without, getElem?_foldl_erase]
  split
  · next member =>
        exact iff_of_false Bool.false_ne_true fun kept => kept.1 member
  · next apart => exact (and_iff_right apart).symm

/-- Unloading columns one after the other drops them from each collection. -/
theorem unloadAll_eq
    {store : Store}
    {gone : List ColumnPos}
    (nodup : gone.Nodup)
    (loaded : ∀ pos ∈ gone, pos ∈ store.columns) :
    store.unloadAll gone = (store.without gone, farewells gone) := by
  rw [unloadAll, ← List.nil_append (farewells gone)]
  generalize ([] : List Message) = messages
  induction gone generalizing store messages with
  | nil => exact congrArg (store, ·) (List.append_nil messages).symm
  | cons pos rest ih =>
      obtain ⟨fresh, nodup⟩ := List.nodup_cons.1 nodup
      obtain ⟨here, later⟩ := List.forall_mem_cons.1 loaded
      obtain ⟨dropped, told⟩ := unloadColumn_of_loaded here
      have still : ∀ other ∈ rest, other ∈ (store.without [pos]).columns := by
        intro other member
        refine (store.mem_columns_without_iff [pos] other).2
          ⟨?_, later other member⟩
        intro same
        rw [List.mem_singleton.1 same] at member
        exact fresh member
      rw [List.foldl_cons]
      simp only [dropped, told]
      rw [ih nodup still, List.append_assoc]
      -- Dropping one column and then the others is dropping all of them.
      rfl

/-! ## Windows that move -/

/-- Nothing is kept of a column. -/
structure HasForgotten (store : Store) (pos : ColumnPos) : Prop where
  not_loaded : pos ∉ store.columns
  not_sent : pos ∉ store.sent
  not_dirty : ¬ store.dirty.contains pos = true
  not_relight : ¬ store.relight.contains pos = true
  converted_eq : store.converted[pos]? = none
  light_eq : store.light[pos]? = none

/-- The same is kept of a column in another store. -/
structure SameAt
    (store : Store)
    (pos : ColumnPos)
    (other : Store) : Prop where
  columns_eq : other.columns[pos]? = store.columns[pos]?
  sent_iff : pos ∈ other.sent ↔ pos ∈ store.sent
  dirty_iff : other.dirty.contains pos = true ↔
    store.dirty.contains pos = true
  relight_iff : other.relight.contains pos = true ↔
    store.relight.contains pos = true
  converted_eq : other.converted[pos]? = store.converted[pos]?
  light_eq : other.light[pos]? = store.light[pos]?

/--
A store gets another window: columns are gone, exactly those that were loaded
and lie outside that window, and nothing else is different.
-/
structure UnloadsOutsiders
    (store : Store)
    (view : ViewWindow)
    (gone : List ColumnPos)
    (outcome : Outcome Unit) : Prop where
  mem_gone_iff : ∀ pos, pos ∈ gone ↔
    pos ∈ store.columns ∧ view.loads pos = false
  /-- The columns are in strict order, so that each is unloaded once. -/
  ascending : gone.Pairwise ColumnPos.Precedes
  messages_eq : outcome.messages =
    gone.flatMap fun pos => [.detach (.column pos), .forget pos]
  warnings_eq : outcome.warnings = []
  loads_of_loaded : ∀ pos ∈ outcome.store.columns, view.loads pos = true
  hasForgotten : ∀ pos ∈ gone, outcome.store.HasForgotten pos
  sameAt : ∀ pos, pos ∉ gone → store.SameAt pos outcome.store
  /--
  The columns that remain in a queue come up in the order in which they would
  have.
  -/
  dirty_answersAs : ∃ waiting, store.dirty.AnswersAs waiting ∧
    outcome.store.dirty.AnswersAs (waiting.filter (· ∉ gone))
  relight_answersAs : ∃ waiting, store.relight.AnswersAs waiting ∧
    outcome.store.relight.AnswersAs (waiting.filter (· ∉ gone))
  view_eq : outcome.store.view = view
  settings_eq : outcome.store.settings = store.settings
  converter_eq : outcome.store.converter = store.converter
  wanted_eq : outcome.store.wanted = store.wanted
  inFlight_eq : outcome.store.inFlight = store.inFlight

theorem hasForgotten_without
    (store : Store)
    {gone : List ColumnPos}
    {pos : ColumnPos}
    (member : pos ∈ gone) :
    (store.without gone).HasForgotten pos where
  not_loaded :=
    fun kept => ((store.mem_columns_without_iff gone pos).1 kept).1 member
  not_sent := fun kept => ((mem_foldl_erase_iff gone _ pos).1 kept).1 member
  not_dirty :=
    fun waits =>
      ((ColumnQueue.contains_foldl_remove_iff gone _ pos).1 waits).1 member
  not_relight := fun waits =>
    ((ColumnQueue.contains_foldl_remove_iff gone _ pos).1 waits).1 member
  converted_eq := (getElem?_foldl_erase gone _ pos).trans (if_pos member)
  light_eq := (getElem?_foldl_erase gone _ pos).trans (if_pos member)

theorem sameAt_without
    (store : Store)
    (view : ViewWindow)
    {gone : List ColumnPos}
    {pos : ColumnPos}
    (apart : pos ∉ gone) :
    store.SameAt pos ({ store with view := view }.without gone) where
  columns_eq := (getElem?_foldl_erase gone _ pos).trans (if_neg apart)
  sent_iff := (mem_foldl_erase_iff gone _ pos).trans (and_iff_right apart)
  dirty_iff :=
    (ColumnQueue.contains_foldl_remove_iff gone _ pos).trans
      (and_iff_right apart)
  relight_iff :=
    (ColumnQueue.contains_foldl_remove_iff gone _ pos).trans
      (and_iff_right apart)
  converted_eq := (getElem?_foldl_erase gone _ pos).trans (if_neg apart)
  light_eq := (getElem?_foldl_erase gone _ pos).trans (if_neg apart)

theorem mem_outsiders_iff
    (store : Store)
    (pos : ColumnPos) :
    pos ∈ store.outsiders ↔
      pos ∈ store.columns ∧ store.view.loads pos = false := by
  rw [outsiders, List.mem_filter, Std.TreeMap.mem_keys, Bool.not_eq_true']

theorem pairwise_precedes_outsiders (store : Store) :
    store.outsiders.Pairwise ColumnPos.Precedes := by
  have ordered : store.columns.keys.Pairwise ColumnPos.Precedes :=
    Std.TreeMap.ordered_keys.imp (ColumnPos.compare_eq_lt_iff _ _).1
  exact ordered.sublist List.filter_sublist

theorem unloadOutsiders_eq (store : Store) :
    store.unloadOutsiders =
      ⟨store.without store.outsiders, (), farewells store.outsiders, []⟩ := by
  have nodup : store.outsiders.Nodup := by
    apply (Std.TreeMap.distinct_keys.sublist List.filter_sublist).imp
    rintro first second apart rfl
    exact apart Std.ReflCmp.compare_self
  have loaded : ∀ pos ∈ store.outsiders, pos ∈ store.columns :=
    fun pos member => ((store.mem_outsiders_iff pos).1 member).1
  rw [unloadOutsiders, unloadAll_eq nodup loaded]

theorem InOrder.unloadsOutsiders
    {store : Store}
    (inOrder : store.InOrder)
    (view : ViewWindow) :
    let moved := { store with view := view }
    store.UnloadsOutsiders view moved.outsiders moved.unloadOutsiders := by
  intro moved
  rw [unloadOutsiders_eq]
  have mem_gone_iff := moved.mem_outsiders_iff
  exact {
    mem_gone_iff := mem_gone_iff
    ascending := moved.pairwise_precedes_outsiders
    messages_eq := rfl
    warnings_eq := rfl
    loads_of_loaded := by
      intro pos kept
      obtain ⟨apart, loaded⟩ :=
        (moved.mem_columns_without_iff moved.outsiders pos).1 kept
      exact Bool.of_not_eq_false fun outside =>
        apart ((mem_gone_iff pos).2 ⟨loaded, outside⟩)
    hasForgotten := fun pos member => moved.hasForgotten_without member
    sameAt := fun pos apart => store.sameAt_without view apart
    dirty_answersAs :=
      inOrder.dirty.exists_answersAs_foldl_remove moved.outsiders
    relight_answersAs :=
      inOrder.relight.exists_answersAs_foldl_remove moved.outsiders
    view_eq := rfl
    settings_eq := rfl
    converter_eq := rfl
    wanted_eq := rfl
    inFlight_eq := rfl }

/--
Whatever was asked of a store before: when the center of its window moves, or
its radius changes, exactly the loaded columns outside the new window are
unloaded, the client is told so in ascending order, nothing is kept of them,
and all that is kept of other columns stays as it was.
-/
theorem unloadsOutsiders_of_reachable
    {settings : Settings}
    {converter : Converter}
    {store : Store}
    (reachable : Reachable settings converter store) :
    (∀ center, ∃ gone,
      store.UnloadsOutsiders { store.view with center := center } gone
        (store.setCenter center)) ∧
    ∀ radius, ∃ gone,
      store.UnloadsOutsiders { store.view with radius := radius } gone
        (store.setRadius radius) :=
  ⟨fun _ => ⟨_, reachable.inOrder.unloadsOutsiders _⟩,
    fun _ => ⟨_, reachable.inOrder.unloadsOutsiders _⟩⟩

/-- A store with a row of columns, some of which are due. -/
def rowStore : Store :=
  (create .standard bareConverter).run
    [.setRadius 2, .createColumn ⟨2, 0⟩ 0, .createColumn ⟨-1, 0⟩ 0,
      .createColumn ⟨-2, 0⟩ 0, .createColumn ⟨0, 0⟩ 0, .markDirty ⟨2, 0⟩,
      .markDirty ⟨-2, 0⟩, .markDirty ⟨0, 0⟩]

/-- The western columns go, and the others that are due keep their order. -/
theorem unloadsOutsiders_rowStore :
    let moved := rowStore.setCenter ⟨2, 0⟩
    moved.messages =
        [.detach (.column ⟨-2, 0⟩), .forget ⟨-2, 0⟩,
          .detach (.column ⟨-1, 0⟩), .forget ⟨-1, 0⟩] ∧
      rowStore.dirty.toList = [⟨2, 0⟩, ⟨-2, 0⟩, ⟨0, 0⟩] ∧
      moved.store.dirty.toList = [⟨2, 0⟩, ⟨0, 0⟩] ∧
      Reachable .standard bareConverter rowStore ∧
      (∀ center, ∃ gone,
        rowStore.UnloadsOutsiders { rowStore.view with center := center } gone
          (rowStore.setCenter center)) ∧
      ∀ radius, ∃ gone,
        rowStore.UnloadsOutsiders { rowStore.view with radius := radius } gone
          (rowStore.setRadius radius) :=
  ⟨rfl, by decide, by decide, reachable_run .standard bareConverter _,
    unloadsOutsiders_of_reachable (reachable_run .standard bareConverter _)⟩

end Store

end VoxelRelay
