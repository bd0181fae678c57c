import VoxelRelay.Proofs.CachedLight

/-!
# Whatever is asked of a cache

Between two look-ups a cache may be asked for single entries and told to drop
one of them or all; when it is full it drops the oldest by itself, and a cache
without room keeps none.  None of this shows: as long as no two of the inputs
that are looked up have the same key, every look-up gives the light that is
computed for its input.  For whatever happens, an entry that is there is the
light of an input that was looked up, under the key of that input.
-/

namespace VoxelRelay

/-- What can be asked of a cache whose entries all come from look-ups. -/
inductive CacheCall where
  | getOrCompute (input : LightInput)
  | get (key : UInt64)
  | invalidate (key : UInt64)
  | clear

namespace CacheCall

/-- The input that is looked up, if the call looks one up. -/
def input? : CacheCall → Option LightInput
  | .getOrCompute input => some input
  | _ => none

/-- The inputs that are looked up, in turn. -/
def inputs (calls : List CacheCall) : List LightInput :=
  calls.filterMap input?

/-- The light computations behind the look-ups. -/
def tasks
    (properties : LightProperties)
    (calls : List CacheCall) : List LightTask :=
  (inputs calls).map (LightTask.mk properties)

theorem mem_inputs_iff
    {calls : List CacheCall}
    {input : LightInput} :
    input ∈ inputs calls ↔ .getOrCompute input ∈ calls := by
  rw [inputs, List.mem_filterMap]
  constructor
  · rintro ⟨call, member, known⟩
    cases call with
    | getOrCompute asked =>
        cases known
        exact member
    | get key => cases known
    | invalidate key => cases known
    | clear => cases known
  · exact fun member => ⟨_, member, rfl⟩

theorem mem_tasks_of_mem
    (properties : LightProperties)
    {calls : List CacheCall}
    {input : LightInput}
    (member : .getOrCompute input ∈ calls) :
    ⟨properties, input⟩ ∈ tasks properties calls :=
  List.mem_map.2 ⟨input, mem_inputs_iff.2 member, rfl⟩

/--
Inputs that have keys of their own leave no doubt about what a key stands for.
-/
theorem unambiguous_tasks
    (properties : LightProperties)
    {calls : List CacheCall}
    (distinct : ∀ input ∈ inputs calls, ∀ other ∈ inputs calls,
      input.key = other.key → input = other) :
    LightTask.Unambiguous (tasks properties calls) := by
  intro task member other second same
  obtain ⟨input, asked, rfl⟩ := List.mem_map.1 member
  obtain ⟨otherInput, otherAsked, rfl⟩ := List.mem_map.1 second
  rw [distinct input asked otherInput otherAsked same]

end CacheCall

namespace LightCache

/--
The answer to a call, if it is one that is answered with light, and the cache
after it.
-/
def call
    (cache : LightCache)
    (properties : LightProperties) :
    CacheCall → Option ColumnLight × LightCache
  | .getOrCompute input =>
      let (light, after) := cache.getOrCompute properties input
      (some light, after)
  | .get key => ((cache.get? key).map CacheEntry.light, cache)
  | .invalidate key => (none, cache.invalidate key)
  | .clear => (none, cache.clear)

/-- The answers to calls that are made one after the other. -/
def answers
    (cache : LightCache)
    (properties : LightProperties) :
    List CacheCall → List (Option ColumnLight)
  | [] => []
  | call :: rest =>
      let (answer, after) := cache.call properties call
      answer :: after.answers properties rest

/-! ## One call -/

section

variable
    {cache : LightCache}
    {tasks : List LightTask}
    (holds : cache.Holds tasks)
include holds

theorem Holds.invalidate (key : UInt64) :
    (cache.invalidate key).Holds tasks := by
  intro other entry known
  rw [get?, LightCache.invalidate, Std.HashMap.getElem?_erase] at known
  split at known
  · cases known
  · exact holds other entry known

omit holds in
theorem holds_clear
    (cache : LightCache)
    (tasks : List LightTask) :
    cache.clear.Holds tasks := by
  intro key entry known
  rw [get?, clear, Std.HashMap.getElem?_empty] at known
  cases known

/-- Whatever is called, the entries stay results of the tasks. -/
theorem Holds.call
    (unambiguous : LightTask.Unambiguous tasks)
    {properties : LightProperties}
    {call : CacheCall}
    (included : ∀ input ∈ call.input?, ⟨properties, input⟩ ∈ tasks) :
    (cache.call properties call).2.Holds tasks := by
  cases call with
  | getOrCompute input =>
      obtain ⟨after, kept, answer⟩ :=
        holds.exists_getOrCompute_eq unambiguous (included input rfl)
      simp only [LightCache.call, answer]
      exact kept
  | get key => exact holds
  | invalidate key => exact holds.invalidate key
  | clear => exact holds_clear cache tasks

/-- A look-up gives the light of its input. -/
theorem Holds.answer_getOrCompute
    (unambiguous : LightTask.Unambiguous tasks)
    {properties : LightProperties}
    {input : LightInput}
    (included : ⟨properties, input⟩ ∈ tasks) :
    (cache.call properties (.getOrCompute input)).1 =
      some (input.light properties) := by
  obtain ⟨after, -, answer⟩ :=
    holds.exists_getOrCompute_eq unambiguous included
  simp only [LightCache.call, answer]
  rfl

end

/-! ## Many calls -/

/--
A cache that holds results of tasks answers every look-up of one of them with
its light.
-/
theorem Holds.answers_getElem?
    {tasks : List LightTask}
    (unambiguous : LightTask.Unambiguous tasks)
    {properties : LightProperties}
    {calls : List CacheCall}
    (included : CacheCall.tasks properties calls ⊆ tasks)
    {cache : LightCache}
    (holds : cache.Holds tasks)
    {place : Nat}
    {input : LightInput}
    (asked : calls[place]? = some (.getOrCompute input)) :
    (cache.answers properties calls)[place]? =
      some (some (input.light properties)) := by
  induction calls generalizing cache place with
  | nil => cases asked
  | cons call rest ih =>
      have first : ∀ input ∈ call.input?, ⟨properties, input⟩ ∈ tasks := by
        intro input known
        obtain rfl : call = .getOrCompute input := by
          cases call with
          | getOrCompute other =>
              exact congrArg CacheCall.getOrCompute (Option.some.inj known)
          | get key => cases known
          | invalidate key => cases known
          | clear => cases known
        exact included
          (CacheCall.mem_tasks_of_mem properties List.mem_cons_self)
      cases place with
      | zero =>
          obtain rfl := Option.some.inj asked
          exact congrArg some
            (holds.answer_getOrCompute unambiguous (first input rfl))
      | succ place =>
          refine ih (fun task member => included ?_)
            (holds.call unambiguous first) asked
          obtain ⟨other, later, rfl⟩ := List.mem_map.1 member
          exact CacheCall.mem_tasks_of_mem properties
            (List.mem_cons_of_mem _ (CacheCall.mem_inputs_iff.1 later))

/--
A cache does not show: of whatever size it is, whether or not there are workers
and whether or not they take jobs, and whatever is asked of it or dropped in
between, every look-up gives the light of its input, if inputs that have the
same key are the same.
-/
theorem answers_getElem?_eq_light
    (capacity : Nat)
    (workers : Option WorkerPool)
    (properties : LightProperties)
    {calls : List CacheCall}
    (distinct : ∀ input ∈ CacheCall.inputs calls,
      ∀ other ∈ CacheCall.inputs calls, input.key = other.key → input = other)
    {place : Nat}
    {input : LightInput}
    (asked : calls[place]? = some (.getOrCompute input)) :
    ((create capacity workers).answers properties calls)[place]? =
      some (some (input.light properties)) :=
  (holds_create capacity workers _).answers_getElem?
    (CacheCall.unambiguous_tasks properties distinct)
    (List.Subset.refl _) asked

/--
Two inputs in turn, of which a cache for one entry keeps the one looked up
last.
-/
def alternating (input other : LightInput) : List CacheCall :=
  [.getOrCompute input, .getOrCompute other, .get input.key,
    .getOrCompute input, .invalidate other.key, .getOrCompute input, .clear,
    .getOrCompute other]

theorem mem_inputs_alternating
    {input other asked : LightInput}
    (member : asked ∈ CacheCall.inputs (alternating input other)) :
    asked = input ∨ asked = other := by
  have turn : asked = input ∨ asked = other ∨ asked = input ∨
      asked = other := by
    simpa [alternating] using CacheCall.mem_inputs_iff.1 member
  tauto

/--
With room for one entry and a pool that takes no jobs, what was dropped is
computed anew.
-/
theorem answers_alternating :
    let input : LightInput := .isolated #[.blocks air]
    let other : LightInput := .isolated #[.blocks 2, .blocks air]
    let properties : LightProperties :=
      ⟨fun _ => 0, fun id => if id = 2 then 15 else 0⟩
    let calls := alternating input other
    (∀ first ∈ CacheCall.inputs calls, ∀ second ∈ CacheCall.inputs calls,
        first.key = second.key → first = second) ∧
      calls[3]? = some (.getOrCompute input) ∧
      ((create 1 (some (WorkerPool.create 2 4).close)).answers properties
        calls)[3]? =
        some (some (input.light properties)) := by
  intro input other properties calls
  have apart : input.key ≠ other.key := by decide +kernel
  have distinct : ∀ first ∈ CacheCall.inputs calls,
    ∀ second ∈ CacheCall.inputs calls,
      first.key = second.key → first = second := by
    intro first member second later same
    rcases mem_inputs_alternating member with rfl | rfl
    all_goals rcases mem_inputs_alternating later with rfl | rfl
    · rfl
    · exact absurd same apart
    · exact absurd same.symm apart
    · rfl
  exact ⟨distinct, rfl, answers_getElem?_eq_light 1 _ properties distinct rfl⟩

end LightCache

end VoxelRelay
