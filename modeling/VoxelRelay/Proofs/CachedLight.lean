import VoxelRelay.Proofs.TickMessages

/-!
# Light out of a cache

A cache answers with what was computed before under the same key.  This is what
would be computed now, if every entry is the result of some task and tasks with
the same key have the same result; and then it does not matter which entries
are there, which were dropped, and who computes what is missing.  Ticks that
differ in the cache they find only therefore do the same.
-/

namespace VoxelRelay

/-- A light computation, with the properties of the blocks. -/
structure LightTask where
  properties : LightProperties
  input : LightInput

namespace LightTask

/-- The key under which the result is kept. -/
def key (task : LightTask) : UInt64 := task.input.key

/-- The result. -/
def light (task : LightTask) : ColumnLight := task.input.light task.properties

/-- Tasks with the same key have the same result. -/
def Unambiguous (tasks : List LightTask) : Prop :=
  ∀ task ∈ tasks, ∀ other ∈ tasks, task.key = other.key →
    task.light = other.light

end LightTask

namespace LightCache

/-- Every entry of a cache is the result of one of the tasks, under its key. -/
def Holds (cache : LightCache) (tasks : List LightTask) : Prop :=
  ∀ key entry, cache.get? key = some entry →
    ∃ task ∈ tasks, task.key = key ∧ task.light = entry.light

theorem holds_create
    (capacity : Nat)
    (workers : Option WorkerPool)
    (tasks : List LightTask) :
    (create capacity workers).Holds tasks := by
  intro key entry known
  rw [get?, create, Std.HashMap.getElem?_empty] at known
  cases known

/--
Who computes light does not matter, and neither does a pool that takes no
jobs.
-/
theorem compute_eq
    (cache : LightCache)
    (properties : LightProperties)
    (input : LightInput) :
    cache.compute properties input = input.light properties := by
  have done : ∀ (pool : WorkerPool) (light : LightData),
      (pool.submit? fun _ => light).getD light = light := by
    intro pool light
    rw [WorkerPool.submit?]
    split <;> rfl
  rw [compute]
  split
  · rfl
  · rw [done, done]
    rfl

theorem get?_evict
    {cache : LightCache}
    {key : UInt64}
    {entry : CacheEntry}
    (known : cache.evict.get? key = some entry) :
    cache.get? key = some entry := by
  unfold evict at known
  split at known
  · exact known
  · simp only [get?, Std.HashMap.getElem?_filter', Option.filter_eq_some_iff]
      at known
    exact known.1

theorem get?_makeRoom
    {cache : LightCache}
    {new key : UInt64}
    {entry : CacheEntry}
    (known : (cache.makeRoom new).get? key = some entry) :
    cache.get? key = some entry := by
  unfold makeRoom at known
  split at known
  · exact get?_evict known
  · exact known

variable {cache : LightCache} {tasks : List LightTask}

theorem Holds.put
    (holds : cache.Holds tasks)
    {task : LightTask}
    (member : task ∈ tasks) :
    (cache.put task.key task.light).Holds tasks := by
  unfold LightCache.put
  split
  · exact holds
  · intro key entry known
    simp only [get?, Std.HashMap.getElem?_insert] at known
    split at known
    · next same =>
        cases known
        exact ⟨task, member, eq_of_beq same, rfl⟩
    · exact holds key entry (get?_makeRoom known)

theorem getOrCompute_of_known
    {properties : LightProperties}
    {input : LightInput}
    {entry : CacheEntry}
    (known : cache.get? input.key = some entry) :
    cache.getOrCompute properties input = (entry.light, cache) := by
  simp only [getOrCompute, known]

theorem getOrCompute_of_unknown
    {input : LightInput}
    (unknown : cache.get? input.key = none)
    (properties : LightProperties) :
    cache.getOrCompute properties input =
      (input.light properties,
        cache.put input.key (input.light properties)) := by
  simp only [getOrCompute, unknown, compute_eq]

theorem getOrCompute_create
    (capacity : Nat)
    (workers : Option WorkerPool)
    (properties : LightProperties)
    (input : LightInput) :
    (create capacity workers).getOrCompute properties input =
      (input.light properties,
        (create capacity workers).put input.key (input.light properties)) :=
  getOrCompute_of_unknown Std.HashMap.getElem?_empty properties

/-- A cache that keeps anything answers with what was just stored. -/
theorem light_getOrCompute_put
    (roomy : cache.capacity ≠ 0)
    (properties : LightProperties)
    (input : LightInput)
    (light : ColumnLight) :
    ((cache.put input.key light).getOrCompute properties input).1 =
      light := by
  have known : (cache.put input.key light).get? input.key =
      some ⟨light, (cache.makeRoom input.key).clock⟩ := by
    rw [LightCache.put, if_neg roomy]
    exact Std.HashMap.getElem?_insert_self
  rw [getOrCompute_of_known known]

/-! ### A property of all light that is kept -/

/-- All light that a cache keeps has a property. -/
def Every (cache : LightCache) (holds : ColumnLight → Prop) : Prop :=
  ∀ key entry, cache.get? key = some entry → holds entry.light

theorem every_create
    (holds : ColumnLight → Prop)
    (capacity : Nat)
    (workers : Option WorkerPool) :
    (create capacity workers).Every holds := by
  intro key entry known
  rw [get?, create, Std.HashMap.getElem?_empty] at known
  cases known

variable {holds : ColumnLight → Prop}

theorem Every.put
    (every : cache.Every holds)
    {light : ColumnLight}
    (here : holds light)
    (key : UInt64) :
    (cache.put key light).Every holds := by
  unfold LightCache.put
  split
  · exact every
  · intro other entry known
    simp only [get?, Std.HashMap.getElem?_insert] at known
    split at known
    · cases known
      exact here
    · exact every other entry (get?_makeRoom known)

/--
A cache answers with such light, and keeps such light, if that is what would
be computed.
-/
theorem Every.getOrCompute
    (every : cache.Every holds)
    {properties : LightProperties}
    {input : LightInput}
    (computed : holds (input.light properties)) :
    holds (cache.getOrCompute properties input).1 ∧
      (cache.getOrCompute properties input).2.Every holds := by
  cases known : cache.get? input.key with
  | some entry =>
      rw [getOrCompute_of_known known]
      exact ⟨every _ entry known, every⟩
  | none =>
      rw [getOrCompute_of_unknown known]
      exact ⟨computed, every.put computed _⟩

/-! ### Results of tasks -/

/-- A cache that holds results of tasks answers each of them with its result. -/
theorem Holds.exists_getOrCompute_eq
    (holds : cache.Holds tasks)
    (unambiguous : LightTask.Unambiguous tasks)
    {task : LightTask}
    (member : task ∈ tasks) :
    ∃ after : LightCache, after.Holds tasks ∧
      cache.getOrCompute task.properties task.input =
        (task.light, after) := by
  cases known : cache.get? task.input.key with
  | some entry =>
      obtain ⟨earlier, done, same, result⟩ := holds _ entry known
      have answer : entry.light = task.light :=
        result.symm.trans (unambiguous earlier done task member same)
      exact ⟨cache, holds, answer ▸ getOrCompute_of_known known⟩
  | none =>
      exact ⟨_, holds.put member,
        getOrCompute_of_unknown known task.properties⟩

/-- A cache gives to each of the tasks in turn what would be computed for it. -/
def Answers : LightCache → List LightTask → Prop
  | _, [] => True
  | cache, task :: rest =>
      (cache.getOrCompute task.properties task.input).1 = task.light ∧
        (cache.getOrCompute task.properties task.input).2.Answers rest

/-- Results that are kept under keys of their own are what would be computed. -/
theorem Holds.answers
    (holds : cache.Holds tasks)
    (unambiguous : LightTask.Unambiguous tasks)
    {asked : List LightTask}
    (included : asked ⊆ tasks) :
    cache.Answers asked := by
  induction asked generalizing cache with
  | nil => trivial
  | cons task rest ih =>
      obtain ⟨member, later⟩ := List.cons_subset.1 included
      obtain ⟨after, kept, answer⟩ :=
        holds.exists_getOrCompute_eq unambiguous member
      rw [Answers, answer]
      exact ⟨rfl, ih kept later⟩

/-- A cache that keeps nothing has everything computed. -/
theorem answers_create_zero
    (workers : Option WorkerPool)
    (asked : List LightTask) :
    (create 0 workers).Answers asked := by
  induction asked with
  | nil => trivial
  | cons task rest ih =>
      rw [Answers, getOrCompute_create]
      exact ⟨rfl, ih⟩

end LightCache

/-! ## Sending and lighting columns -/

namespace TickState

/-- What is computed when a loaded column is sent. -/
def sendTask
    (state : TickState)
    (pos : ColumnPos)
    (column : Column) : LightTask :=
  let palettes := (state.target column).palettes
  ⟨state.store.table.light,
    (state.converting pos palettes).store.lightInput pos palettes⟩

/-- What is computed when a column that was sent is lit anew. -/
def relightTask
    (state : TickState)
    (pos : ColumnPos)
    (palettes : Array Palette) : LightTask :=
  ⟨state.store.table.light, state.store.lightInput pos palettes⟩

/-- What is computed when a column is sent, if it is loaded. -/
def sendTasks (state : TickState) (pos : ColumnPos) : List LightTask :=
  match state.store.column? pos with
  | none => []
  | some column => [state.sendTask pos column]

/-- What is computed when a column is lit anew, if it was sent. -/
def relightTasks (state : TickState) (pos : ColumnPos) : List LightTask :=
  match state.store.converted[pos]? with
  | none => []
  | some palettes => [state.relightTask pos palettes]

/-- What is computed while due columns are sent. -/
def sendDueTasks : Nat → TickState → List LightTask
  | 0, _ => []
  | budget + 1, state =>
      match state.store.dirty.pop? with
      | none => []
      | some (pos, dirty) =>
          let taken : TickState :=
            { state with store := { state.store with dirty := dirty } }
          taken.sendTasks pos ++ sendDueTasks budget (taken.sendColumn pos)

/-- What is computed while due columns are lit anew. -/
def relightDueTasks : Nat → TickState → List LightTask
  | 0, _ => []
  | budget + 1, state =>
      match state.store.relight.pop? with
      | none => []
      | some (pos, relight) =>
          let taken : TickState :=
            { state with store := { state.store with relight := relight } }
          taken.relightTasks pos ++
            relightDueTasks budget (taken.relightColumn pos)

/-- A column was sent with the light that a cache gave as its answer. -/
def sentWith
    (state : TickState)
    (pos : ColumnPos)
    (column : Column)
    (answer : ColumnLight × LightCache) : TickState where
  store :=
    (state.store.withSent pos (state.target column).palettes
      answer.1).relightNeighbors pos
  cache := answer.2
  messages :=
    .column (state.target column) (.ofLight answer.1) :: state.messages
  warnings :=
    state.warnings ++ state.store.converter.warnings column state.store.minY
  report := { state.report with columnsSent := state.report.columnsSent + 1 }

/-- Whether light is other than what is stored for a column. -/
def isNew
    (state : TickState)
    (pos : ColumnPos)
    (light : ColumnLight) : Bool :=
  match state.store.light[pos]? with
  | some old => light.differs old
  | none => true

/-- A column that was sent got the light that a cache gave as its answer. -/
def relitWith
    (state : TickState)
    (pos : ColumnPos)
    (answer : ColumnLight × LightCache) : TickState :=
  if state.isNew pos answer.1 then
    { store := state.store.withLight pos answer.1
      cache := answer.2
      messages := .light pos (.ofLight answer.1) :: state.messages
      warnings := state.warnings
      report :=
        { state.report with
          lightUpdatesSent := state.report.lightUpdatesSent + 1 } }
  else
    { state with
      cache := answer.2
      report :=
        { state.report with
          relightsUnchanged := state.report.relightsUnchanged + 1 } }

theorem sendColumn_eq_sentWith
    {state : TickState}
    {pos : ColumnPos}
    {column : Column}
    (loaded : state.store.column? pos = some column) :
    let task := state.sendTask pos column
    state.sendColumn pos =
      state.sentWith pos column
        (state.cache.getOrCompute task.properties task.input) := by
  simp only [sendColumn, loaded]
  rfl

theorem relightColumn_eq_relitWith
    {state : TickState}
    {pos : ColumnPos}
    {palettes : Array Palette}
    (converted : state.store.converted[pos]? = some palettes) :
    let task := state.relightTask pos palettes
    state.relightColumn pos =
      state.relitWith pos
        (state.cache.getOrCompute task.properties task.input) := by
  simp only [relightColumn, converted]
  rfl

/--
Two states differ in their caches at most, and both caches hold results of
tasks.
-/
structure SameButCache
    (tasks : List LightTask)
    (state other : TickState) : Prop where
  eq_of_cache : other = { state with cache := other.cache }
  holds : state.cache.Holds tasks
  otherHolds : other.cache.Holds tasks

namespace SameButCache

variable
    {tasks : List LightTask}
    {state other : TickState}
    (same : SameButCache tasks state other)
include same

theorem store_eq : other.store = state.store := by
  rw [same.eq_of_cache]

/-- Both states may go on with another store. -/
theorem withStore (store : Store) :
    SameButCache tasks { state with store := store }
      { other with store := store } where
  eq_of_cache := by rw [same.eq_of_cache]
  holds := same.holds
  otherHolds := same.otherHolds

variable (unambiguous : LightTask.Unambiguous tasks)
include unambiguous

theorem sendColumn
    (pos : ColumnPos)
    (included : state.sendTasks pos ⊆ tasks) :
    SameButCache tasks (state.sendColumn pos) (other.sendColumn pos) := by
  cases loaded : state.store.column? pos with
  | none =>
      rw [sendColumn_of_not_loaded loaded,
        sendColumn_of_not_loaded (same.store_eq ▸ loaded)]
      exact same
  | some column =>
      let task := state.sendTask pos column
      rw [sendTasks, loaded] at included
      have member : task ∈ tasks := (List.cons_subset.1 included).1
      obtain ⟨cache, kept, answer⟩ :=
        same.holds.exists_getOrCompute_eq unambiguous member
      obtain ⟨otherCache, otherKept, otherAnswer⟩ :=
        same.otherHolds.exists_getOrCompute_eq unambiguous member
      have here : state.sendColumn pos =
          state.sentWith pos column (task.light, cache) :=
        (sendColumn_eq_sentWith loaded).trans (congrArg _ answer)
      have there : other.sendColumn pos =
          state.sentWith pos column (task.light, otherCache) := by
        rw [← otherAnswer, same.eq_of_cache]
        exact sendColumn_eq_sentWith loaded
      rw [here, there]
      exact ⟨rfl, kept, otherKept⟩

theorem relightColumn
    (pos : ColumnPos)
    (included : state.relightTasks pos ⊆ tasks) :
    SameButCache tasks (state.relightColumn pos)
      (other.relightColumn pos) := by
  cases converted : state.store.converted[pos]? with
  | none =>
      rw [relightColumn_of_not_converted converted,
        relightColumn_of_not_converted (same.store_eq ▸ converted)]
      exact same
  | some palettes =>
      let task := state.relightTask pos palettes
      rw [relightTasks, converted] at included
      have member : task ∈ tasks := (List.cons_subset.1 included).1
      obtain ⟨cache, kept, answer⟩ :=
        same.holds.exists_getOrCompute_eq unambiguous member
      obtain ⟨otherCache, otherKept, otherAnswer⟩ :=
        same.otherHolds.exists_getOrCompute_eq unambiguous member
      have here : state.relightColumn pos =
          state.relitWith pos (task.light, cache) :=
        (relightColumn_eq_relitWith converted).trans (congrArg _ answer)
      have there : other.relightColumn pos =
          state.relitWith pos (task.light, otherCache) := by
        rw [← otherAnswer, same.eq_of_cache]
        exact relightColumn_eq_relitWith converted
      rw [here, there, relitWith, relitWith]
      dsimp only
      split
      · exact ⟨rfl, kept, otherKept⟩
      · exact ⟨rfl, kept, otherKept⟩

theorem sendDue
    (budget : Nat)
    (included : sendDueTasks budget state ⊆ tasks) :
    SameButCache tasks (state.sendDue budget) (other.sendDue budget) := by
  induction budget generalizing state other with
  | zero => exact same
  | succ budget ih =>
      rw [TickState.sendDue, TickState.sendDue, same.store_eq]
      rw [sendDueTasks] at included
      split
      · exact same
      · next pos dirty taken =>
          rw [taken] at included
          obtain ⟨first, later⟩ := List.append_subset.1 included
          have next := same.withStore { state.store with dirty := dirty }
          exact ih (next.sendColumn unambiguous pos first) later

theorem relightDue
    (budget : Nat)
    (included : relightDueTasks budget state ⊆ tasks) :
    SameButCache tasks (state.relightDue budget)
      (other.relightDue budget) := by
  induction budget generalizing state other with
  | zero => exact same
  | succ budget ih =>
      rw [TickState.relightDue, TickState.relightDue, same.store_eq]
      rw [relightDueTasks] at included
      split
      · exact same
      · next pos relight taken =>
          rw [taken] at included
          obtain ⟨first, later⟩ := List.append_subset.1 included
          have next := same.withStore { state.store with relight := relight }
          exact ih (next.relightColumn unambiguous pos first) later

end SameButCache

end TickState

/-! ## Ticks -/

namespace Store

/-- What is computed, or looked up, in a tick. -/
def tickTasks (store : Store) (cache : LightCache) : List LightTask :=
  TickState.sendDueTasks store.settings.scheduler.columnsPerTick
      ⟨store, cache, [], [], ⟨0, 0, 0, 0⟩⟩ ++
    TickState.relightDueTasks store.settings.scheduler.lightUpdatesPerTick
      (store.sentDue cache)

/--
What a tick does is the same with any two caches that hold results of its
tasks.
-/
theorem tick_eq_of_holds
    {tasks : List LightTask}
    (unambiguous : LightTask.Unambiguous tasks)
    (store : Store)
    {cache other : LightCache}
    (holds : cache.Holds tasks)
    (otherHolds : other.Holds tasks)
    (included : store.tickTasks cache ⊆ tasks)
    (spawned : Bool) :
    (store.tick other spawned).1 = (store.tick cache spawned).1 ∧
      (store.tick cache spawned).2.Holds tasks ∧
        (store.tick other spawned).2.Holds tasks := by
  obtain ⟨sending, relighting⟩ := List.append_subset.1 included
  have start :
      TickState.SameButCache tasks ⟨store, cache, [], [], ⟨0, 0, 0, 0⟩⟩
      ⟨store, other, [], [], ⟨0, 0, 0, 0⟩⟩ := ⟨rfl, holds, otherHolds⟩
  have lit :
      TickState.SameButCache tasks (store.litDue cache)
        (store.litDue other) :=
          (start.sendDue unambiguous _ sending).relightDue unambiguous _
            relighting
  have told (store : Store) (cache : LightCache) : store.tick cache spawned =
      let done :=
        if spawned then (store.litDue cache).flush else store.litDue cache
      (⟨done.store, done.report, done.messages.reverse, done.warnings⟩,
        done.cache) := rfl
  rw [told, told]
  refine ⟨?_, ?_, ?_⟩
  · rw [lit.eq_of_cache]
    cases spawned <;> rfl
  · cases spawned <;> exact lit.holds
  · cases spawned <;> exact lit.otherHolds

end Store

end VoxelRelay
