import Mathlib.Data.List.Induction
import Mathlib.Data.List.Nodup
import VoxelRelay.Proofs.CachedLight

/-!
# The oldest entries make room

A cache never holds more entries than its capacity.  Entries are stamped in the
order in which they are stored, so they stand on a shelf, the oldest first: a
result that is stored goes to the end of the shelf, from wherever its key was,
and when a new key meets a full shelf, the front of the shelf is cleared.  No
two entries have one stamp, which is why dropping all stamps up to the last of
the front drops just the front.

The main result is `evictsOldest_after`.
-/

namespace VoxelRelay

/-- What can be asked of a cache, with what is stored given from outside. -/
inductive CacheOperation where
  | put (key : UInt64) (light : ColumnLight)
  | get (key : UInt64)
  | invalidate (key : UInt64)
  | clear

namespace CacheOperation

/-- Whether something is stored under a key. -/
def stores (key : UInt64) : CacheOperation → Bool
  | put other _ => other = key
  | _ => false

/-- Whether the entry of a key is written over or dropped on purpose. -/
def touches (key : UInt64) : CacheOperation → Bool
  | put other _ => other = key
  | get _ => false
  | invalidate other => other = key
  | clear => true

/-- How many operations ago something was stored under a key. -/
def age (key : UInt64) (operations : List CacheOperation) : Nat :=
  operations.reverse.findIdx (·.stores key)

/-- What is known under a key where nothing is ever dropped for want of room. -/
def remember
    (key : UInt64)
    (known : Option ColumnLight) : CacheOperation → Option ColumnLight
  | put other light => if other = key then some light else known
  | get _ => known
  | invalidate other => if other = key then none else known
  | clear => none

/--
What would be known under a key after operations if nothing was dropped for
want of room.
-/
def remembered
    (key : UInt64)
    (operations : List CacheOperation) : Option ColumnLight :=
  operations.foldl (remember key) none

theorem age_append
    (key : UInt64)
    (operations : List CacheOperation)
    (operation : CacheOperation) :
    age key (operations ++ [operation]) =
      if operation.stores key then 0 else age key operations + 1 := by
  rw [age, List.reverse_append, List.reverse_singleton, List.singleton_append,
    List.findIdx_cons, age]
  cases operation.stores key <;> rfl

theorem remembered_append
    (key : UInt64)
    (operations : List CacheOperation)
    (operation : CacheOperation) :
    remembered key (operations ++ [operation]) =
      operation.remember key (remembered key operations) := by
  rw [remembered, List.foldl_append, remembered]
  rfl

end CacheOperation

namespace LightCache

open CacheOperation

/-- The cache after an operation. -/
def perform (cache : LightCache) : CacheOperation → LightCache
  | .put key light => cache.put key light
  | .get _ => cache
  | .invalidate key => cache.invalidate key
  | .clear => cache.clear

/-- The cache after operations that are done one after the other. -/
def after
    (cache : LightCache)
    (operations : List CacheOperation) : LightCache :=
  operations.foldl perform cache

theorem after_append
    (cache : LightCache)
    (first second : List CacheOperation) :
    cache.after (first ++ second) = (cache.after first).after second :=
  List.foldl_append

/-! ## The shelf -/

/-- The keys and entries of a cache in the order in which they were stored. -/
structure Shelved
    (cache : LightCache)
    (shelf : List (UInt64 × CacheEntry)) : Prop where
  mem_iff : ∀ key entry, (key, entry) ∈ shelf ↔ cache.get? key = some entry
  growing : shelf.Pairwise fun old new => old.2.stamp < new.2.stamp
  below : ∀ item ∈ shelf, item.2.stamp < cache.clock

theorem shelved_create
    (capacity : Nat)
    (workers : Option WorkerPool) :
    (create capacity workers).Shelved [] where
  mem_iff := fun key entry => by simp [get?, create]
  growing := List.Pairwise.nil
  below := fun _ member => absurd member List.not_mem_nil

namespace Shelved

variable
    {cache : LightCache}
    {shelf : List (UInt64 × CacheEntry)}
    (shelved : cache.Shelved shelf)
include shelved

/-- An entry stands on the shelf once. -/
theorem nodup : shelf.Nodup := by
  apply shelved.growing.imp
  rintro old new before rfl
  exact Nat.lt_irrefl _ before

theorem nodup_keys : (shelf.map Prod.fst).Nodup := by
  rw [List.Nodup, List.pairwise_map]
  refine shelved.growing.imp_of_mem fun {old new} first second before same =>
    ?_
  have older := (shelved.mem_iff old.1 old.2).1 first
  rw [same, (shelved.mem_iff new.1 new.2).1 second] at older
  exact Nat.ne_of_gt before
    (congrArg CacheEntry.stamp (Option.some.inj older))

theorem perm : cache.entries.toList.Perm shelf := by
  have distinct : cache.entries.toList.Nodup := by
    apply Std.HashMap.distinct_keys_toList.imp
    rintro first second apart rfl
    exact Bool.false_ne_true (apart.symm.trans BEq.rfl)
  refine (List.perm_ext_iff_of_nodup distinct shelved.nodup).2 fun item => ?_
  exact Std.HashMap.mem_toList_iff_getElem?_eq_some.trans
    (shelved.mem_iff item.1 item.2).symm

theorem size_eq : cache.size = shelf.length := by
  rw [size, ← Std.HashMap.length_toList, shelved.perm.length_eq]

/-- The stamps of a cache are those of its shelf, in order. -/
theorem stamps_eq : cache.stamps = shelf.map fun item => item.2.stamp := by
  have sorted : (shelf.map fun item => item.2.stamp).Pairwise (· ≤ ·) :=
    List.pairwise_map.2 (shelved.growing.imp Nat.le_of_lt)
  have listed : cache.stamps.Pairwise (· ≤ ·) := by
    have merged :=
      @List.pairwise_mergeSort Nat (fun first second => first ≤ second)
        (fun _ _ _ early late => by simp only [decide_eq_true_eq] at *; omega)
        (fun _ _ => by simp only [Bool.or_eq_true, decide_eq_true_eq]; omega)
        (cache.entries.toList.map fun item => item.2.stamp)
    exact merged.imp of_decide_eq_true
  refine List.Perm.eq_of_pairwise (fun _ _ _ _ => Nat.le_antisymm)
    listed sorted ?_
  exact (List.mergeSort_perm _ _).trans (shelved.perm.map _)

/-- Part of a shelf is the shelf of a cache that holds just that part. -/
theorem sublist
    {fewer : LightCache}
    {part : List (UInt64 × CacheEntry)}
    (least : part.Sublist shelf)
    (clock : fewer.clock = cache.clock)
    (kept : ∀ key entry, (key, entry) ∈ part ↔ fewer.get? key = some entry) :
    fewer.Shelved part where
  mem_iff := kept
  growing := shelved.growing.sublist least
  below := fun item member => clock ▸ shelved.below item (least.subset member)

theorem invalidate (key : UInt64) :
    (cache.invalidate key).Shelved (shelf.filter (·.1 ≠ key)) := by
  refine shelved.sublist List.filter_sublist rfl fun other entry => ?_
  rw [List.mem_filter, shelved.mem_iff, decide_eq_true_eq, get?, get?,
    LightCache.invalidate, Std.HashMap.getElem?_erase]
  by_cases same : key = other
  · simp [same]
  · simp [same, Ne.symm same]

theorem clear : cache.clear.Shelved [] :=
  shelved.sublist (List.nil_sublist shelf) rfl fun key entry =>
    by simp [get?, LightCache.clear]

/-- The front of the shelf is dropped, as far as the quota goes. -/
theorem evict : cache.evict.Shelved (shelf.drop cache.quota) := by
  have positive : 0 < cache.quota :=
    Nat.lt_of_lt_of_le Nat.zero_lt_one (Nat.le_max_left _ _)
  rw [LightCache.evict, shelved.stamps_eq, ← List.map_take, List.getLast?_map]
  rcases List.eq_nil_or_concat (shelf.take cache.quota) with
    none | ⟨front, last, split⟩
  · -- An empty shelf stays as it is.
    have empty : shelf = [] :=
      (List.take_eq_nil_iff.1 none).resolve_left positive.ne'
    rw [none, List.getLast?_nil, Option.map_none, empty, List.drop_nil,
      ← empty]
    exact shelved
  · rw [split, List.concat_eq_append, List.getLast?_concat]
    have whole : front ++ [last] ++ shelf.drop cache.quota = shelf := by
      rw [← List.concat_eq_append, ← split, List.take_append_drop]
    have ordered := shelved.growing
    rw [← whole, List.pairwise_append, List.pairwise_append] at ordered
    refine shelved.sublist (List.drop_sublist _ _) rfl fun key entry => ?_
    have held : (key, entry) ∈ shelf ↔ cache.entries[key]? = some entry :=
      shelved.mem_iff key entry
    simp only [Option.map_some, get?, Std.HashMap.getElem?_filter',
      Option.filter_eq_some_iff, decide_eq_true_eq]
    rw [← held]
    constructor
    · exact fun member => ⟨List.mem_of_mem_drop member,
        ordered.2.2 last (List.mem_append_right _ List.mem_cons_self) _
          member⟩
    · rintro ⟨member, newer⟩
      rw [← whole, List.append_assoc, List.mem_append, List.mem_append]
        at member
      rcases member with early | latest | behind
      · exact absurd newer
          (Nat.lt_asymm (ordered.1.2.2 _ early last List.mem_cons_self))
      · rw [← List.mem_singleton.1 latest] at newer
        exact absurd newer (Nat.lt_irrefl _)
      · exact behind

end Shelved

/-! ## Storing -/

section

variable {cache : LightCache} {key other : UInt64} {light : ColumnLight}

/-- A key that is known, or one more that fits, drops nothing. -/
theorem makeRoom_of_room
    (room : (cache.get? key).isSome = true ∨ cache.size < cache.capacity) :
    cache.makeRoom key = cache := by
  rw [makeRoom, if_neg]
  rw [Bool.and_eq_true, Bool.not_eq_true', decide_eq_true_eq,
    Std.HashMap.contains_eq_isSome_getElem?]
  rintro ⟨unknown, full⟩
  rcases room with known | fits
  · exact Bool.false_ne_true (unknown.symm.trans known)
  · exact Nat.not_lt.2 full fits

/-- A new key that does not fit drops the oldest entries. -/
theorem makeRoom_of_full
    (unknown : cache.get? key = none)
    (full : cache.capacity ≤ cache.size) :
    cache.makeRoom key = cache.evict := by
  rw [makeRoom, if_pos]
  rw [Bool.and_eq_true, Bool.not_eq_true', decide_eq_true_eq,
    Std.HashMap.contains_eq_isSome_getElem?]
  exact ⟨congrArg Option.isSome unknown, full⟩

theorem get?_put_self
    (roomy : cache.capacity ≠ 0)
    (key : UInt64)
    (light : ColumnLight) :
    ∃ stamp, (cache.put key light).get? key = some ⟨light, stamp⟩ := by
  rw [put, if_neg roomy]
  exact ⟨_, Std.HashMap.getElem?_insert_self⟩

theorem get?_put_of_ne
    (roomy : cache.capacity ≠ 0)
    (apart : other ≠ key) :
    (cache.put key light).get? other = (cache.makeRoom key).get? other := by
  rw [put, if_neg roomy, get?, get?, Std.HashMap.getElem?_insert, if_neg]
  exact fun same => apart (eq_of_beq same).symm

theorem capacity_makeRoom
    (cache : LightCache)
    (key : UInt64) :
    (cache.makeRoom key).capacity = cache.capacity ∧
      (cache.makeRoom key).clock = cache.clock := by
  rw [makeRoom]
  split
  · rw [evict]
    split <;> exact ⟨rfl, rfl⟩
  · exact ⟨rfl, rfl⟩

end

/-- What is stored goes to the end of the shelf, from wherever its key was. -/
theorem Shelved.put
    {cache : LightCache}
    {key : UInt64}
    {part : List (UInt64 × CacheEntry)}
    (roomy : cache.capacity ≠ 0)
    (left : (cache.makeRoom key).Shelved part)
    (light : ColumnLight) :
    (cache.put key light).Shelved
      (part.filter (·.1 ≠ key) ++ [(key, ⟨light, cache.clock⟩)]) := by
  have stored : cache.put key light =
      { cache.makeRoom key with
        entries :=
          (cache.makeRoom key).entries.insert key ⟨light, cache.clock⟩
        clock := cache.clock + 1 } := by
    simp only [LightCache.put, if_neg roomy, (cache.capacity_makeRoom key).2]
  have earlier : ∀ item ∈ part.filter (·.1 ≠ key),
      item.2.stamp < cache.clock := fun item member =>
        (cache.capacity_makeRoom key).2 ▸
          left.below item (List.mem_filter.1 member).1
  rw [stored]
  refine ⟨fun other entry => ?_, ?_, fun item member => ?_⟩
  · rw [List.mem_append, List.mem_filter, left.mem_iff, List.mem_singleton,
      get?, get?,
      Std.HashMap.getElem?_insert]
    by_cases same : key = other
    · subst same
      simp [eq_comm]
    · simp [same, Ne.symm same]
  · rw [List.pairwise_append]
    refine ⟨left.growing.sublist List.filter_sublist,
      List.pairwise_singleton _ _, ?_⟩
    intro old member new last
    rw [List.mem_singleton.1 last]
    exact earlier old member
  · rcases List.mem_append.1 member with before | last
    · exact Nat.lt_succ_of_lt (earlier item before)
    · rw [List.mem_singleton.1 last]
      exact Nat.lt_succ_self _

/-! ## Runs -/

/--
A cache after operations: its shelf fits, what stands further in front was
stored longer ago, and every entry is what was last stored under its key.
-/
structure Orderly
    (cache : LightCache)
    (capacity : Nat)
    (operations : List CacheOperation)
    (shelf : List (UInt64 × CacheEntry)) : Prop where
  shelved : cache.Shelved shelf
  capacity_eq : cache.capacity = capacity
  length_le : shelf.length ≤ capacity
  aging : shelf.Pairwise fun old new =>
    age new.1 operations < age old.1 operations
  known : ∀ item ∈ shelf, remembered item.1 operations = some item.2.light

namespace Orderly

variable
    {cache : LightCache}
    {capacity : Nat}
    {operations : List CacheOperation}
    {shelf : List (UInt64 × CacheEntry)}
    (orderly : cache.Orderly capacity operations shelf)
include orderly

/--
Entries that an operation does not touch grow older together, and stay what
they are.
-/
theorem untouched
    {operation : CacheOperation}
    {part : List (UInt64 × CacheEntry)}
    (least : part.Sublist shelf)
    (spared : ∀ item ∈ part, operation.touches item.1 = false) :
    (∀ item ∈ part, age item.1 (operations ++ [operation]) =
      age item.1 operations + 1) ∧
      (part.Pairwise fun old new =>
        age new.1 (operations ++ [operation]) <
          age old.1 (operations ++ [operation])) ∧
      ∀ item ∈ part, remembered item.1 (operations ++ [operation]) =
        some item.2.light := by
  have older : ∀ item ∈ part,
      age item.1 (operations ++ [operation]) = age item.1 operations + 1 := by
    intro item member
    have passed : operation.stores item.1 = false := by
      cases operation with
      | put key light => exact spared item member
      | _ => rfl
    rw [age_append, passed, if_neg Bool.false_ne_true]
  refine ⟨older, ?_, fun item member => ?_⟩
  · refine (orderly.aging.sublist least).imp_of_mem fun first second before =>
      ?_
    rw [older _ first, older _ second]
    exact Nat.succ_lt_succ before
  · have same : operation.remember item.1 (remembered item.1 operations) =
        remembered item.1 operations := by
      have spared := spared item member
      cases operation with
      | put key light => exact if_neg (of_decide_eq_false spared)
      | get key => rfl
      | invalidate key => exact if_neg (of_decide_eq_false spared)
      | clear => cases spared
    rw [remembered_append, same]
    exact orderly.known item (least.subset member)

/--
What an operation leaves of a shelf without touching it is the shelf after it.
-/
theorem reduce
    {operation : CacheOperation}
    {fewer : LightCache}
    {part : List (UInt64 × CacheEntry)}
    (left : fewer.Shelved part)
    (least : part.Sublist shelf)
    (same : fewer.capacity = cache.capacity)
    (spared : ∀ item ∈ part, operation.touches item.1 = false) :
    fewer.Orderly capacity (operations ++ [operation]) part where
  shelved := left
  capacity_eq := same.trans orderly.capacity_eq
  length_le := least.length_le.trans orderly.length_le
  aging := (orderly.untouched least spared).2.1
  known := (orderly.untouched least spared).2.2

/--
Where room is made, at least one entry fewer stays than fit, the one of the
key apart.
-/
theorem exists_makeRoom
    (roomy : capacity ≠ 0)
    (key : UInt64) :
    ∃ part, (cache.makeRoom key).Shelved part ∧ part.Sublist shelf ∧
      (part.filter (·.1 ≠ key)).length < capacity := by
  have positive : 1 ≤ cache.quota := Nat.le_max_left _ _
  have fits := orderly.length_le
  have held := orderly.shelved.size_eq
  cases found : cache.get? key with
  | some entry =>
      have room :=
        @makeRoom_of_room cache key (Or.inl (congrArg Option.isSome found))
      refine ⟨shelf, room.symm ▸ orderly.shelved, List.Sublist.refl _, ?_⟩
      refine Nat.lt_of_lt_of_le
        (List.length_filter_lt_length_iff_exists.2 ?_) fits
      exact ⟨(key, entry), (orderly.shelved.mem_iff key entry).2 found,
        by simp⟩
  | none =>
      by_cases full : cache.capacity ≤ cache.size
      · rw [makeRoom_of_full found full]
        refine ⟨_, orderly.shelved.evict, List.drop_sublist _ _, ?_⟩
        have shorter := (shelf.drop cache.quota).length_filter_le (·.1 ≠ key)
        rw [List.length_drop] at shorter
        omega
      · have room :=
          @makeRoom_of_room cache key (Or.inr (Nat.lt_of_not_le full))
        refine ⟨shelf, room.symm ▸ orderly.shelved, List.Sublist.refl _, ?_⟩
        have shorter := shelf.length_filter_le (·.1 ≠ key)
        rw [orderly.capacity_eq] at full
        omega

theorem exists_put
    (key : UInt64)
    (light : ColumnLight) :
    ∃ after, (cache.put key light).Orderly capacity
      (operations ++ [.put key light]) after := by
  by_cases roomy : capacity = 0
  · -- Nothing stands on a shelf without room, and nothing comes there.
    have idle : cache.put key light = cache := by
      rw [LightCache.put, if_pos (orderly.capacity_eq.trans roomy)]
    obtain rfl : shelf = [] := List.eq_nil_of_length_eq_zero (Nat.le_zero.1
      (roomy ▸ orderly.length_le))
    exact ⟨[],
      idle.symm ▸ orderly.reduce orderly.shelved (List.Sublist.refl _) rfl
      fun _ member => absurd member List.not_mem_nil⟩
  · obtain ⟨part, left, least, fits⟩ := orderly.exists_makeRoom roomy key
    have others : (part.filter (·.1 ≠ key)).Sublist shelf :=
      List.filter_sublist.trans least
    have spared : ∀ item ∈ part.filter (·.1 ≠ key),
        (CacheOperation.put key light).touches item.1 = false :=
          fun item member =>
      decide_eq_false
        (Ne.symm (of_decide_eq_true (List.mem_filter.1 member).2))
    obtain ⟨older, aging, known⟩ := orderly.untouched others spared
    have newest : age key (operations ++ [.put key light]) = 0 := by
      rw [age_append, stores, decide_eq_true rfl, if_pos rfl]
    refine ⟨_, left.put (orderly.capacity_eq ▸ roomy) light, ?_, ?_, ?_, ?_⟩
    · rw [LightCache.put]
      split
      · exact orderly.capacity_eq
      · exact (cache.capacity_makeRoom key).1.trans orderly.capacity_eq
    · rw [List.length_append, List.length_singleton]
      exact fits
    · rw [List.pairwise_append]
      refine ⟨aging, List.pairwise_singleton _ _, ?_⟩
      intro old member new last
      rw [List.mem_singleton.1 last, newest, older old member]
      exact Nat.succ_pos _
    · intro item member
      rcases List.mem_append.1 member with before | last
      · exact known item before
      · rw [List.mem_singleton.1 last, remembered_append]
        exact if_pos rfl

theorem exists_perform (operation : CacheOperation) :
    ∃ after, (cache.perform operation).Orderly capacity
      (operations ++ [operation]) after := by
  cases operation with
  | put key light => exact orderly.exists_put key light
  | get key =>
      exact ⟨shelf,
        orderly.reduce orderly.shelved (List.Sublist.refl _) rfl fun _ _ =>
          rfl⟩
  | invalidate key =>
      refine ⟨_,
        orderly.reduce (orderly.shelved.invalidate key)
          List.filter_sublist rfl ?_⟩
      intro item member
      exact decide_eq_false
        (Ne.symm (of_decide_eq_true (List.mem_filter.1 member).2))
  | clear =>
      exact ⟨[], orderly.reduce orderly.shelved.clear (List.nil_sublist _) rfl
        fun _ member => absurd member List.not_mem_nil⟩

end Orderly

theorem exists_orderly_after
    (capacity : Nat)
    (workers : Option WorkerPool)
    (operations : List CacheOperation) :
    ∃ shelf, ((create capacity workers).after operations).Orderly capacity
      operations shelf := by
  induction operations using List.reverseRecOn with
  | nil =>
      exact ⟨[], shelved_create capacity workers, rfl, Nat.zero_le _,
        List.Pairwise.nil, fun _ member => absurd member List.not_mem_nil⟩
  | append_singleton operations operation ih =>
      obtain ⟨shelf, orderly⟩ := ih
      rw [after_append]
      exact orderly.exists_perform operation

/-! ## What is dropped -/

/--
The entry of a key is dropped to make room when something is stored under
another key.
-/
def Displaces
    (cache : LightCache)
    (other : UInt64)
    (light : ColumnLight)
    (key : UInt64) : Prop :=
  cache.get? other = none ∧ cache.size = cache.capacity ∧
  (cache.get? key).isSome = true ∧
    (cache.put other light).get? key = none

/--
A cache after operations is within its bound and has dropped, and will drop,
the oldest.
-/
structure EvictsOldest
    (cache : LightCache)
    (capacity : Nat)
    (operations : List CacheOperation) : Prop where
  /-- No more entries are held than fit. -/
  size_le : cache.size ≤ capacity
  get?_of_no_room : capacity = 0 → ∀ key, cache.get? key = none
  stamp_inj : ∀ key other entry second, cache.get? key = some entry →
    cache.get? other = some second → entry.stamp = second.stamp → key = other
  /--
  What is found under a key was the last to be stored there, and was not
  dropped since.
  -/
  known : ∀ key entry, cache.get? key = some entry →
    remembered key operations = some entry.light
  get?_put_self : capacity ≠ 0 → ∀ key light,
    ((cache.put key light).get? key).map CacheEntry.light = some light
  /-- What is written over, or fits, drops nothing else. -/
  get?_put_of_room : ∀ key light, (cache.get? key).isSome = true ∨
    cache.size < capacity →
    ∀ other, other ≠ key → (cache.put key light).get? other = cache.get? other
  /--
  A new key drops a quarter of what fits, one entry at least: those stored
  longest ago.
  -/
  get?_put_of_full : capacity ≠ 0 → ∀ key light, cache.get? key = none →
    cache.size = capacity →
    ∃ dropped : List UInt64, dropped.Nodup ∧
      dropped.length = max (capacity / 4) 1 ∧
      (∀ first ∈ dropped, (cache.get? first).isSome = true ∧
        ∀ kept, (cache.get? kept).isSome = true → kept ∉ dropped →
          age kept operations < age first operations) ∧
      ∀ other, other ≠ key →
        (cache.put key light).get? other = if other ∈ dropped then none
          else cache.get? other
  get?_invalidate : ∀ key other,
    (cache.invalidate key).get? other = if other = key then none
      else cache.get? other
  get?_clear : ∀ key, cache.clear.get? key = none
  /--
  An entry that is neither touched nor displaced is found as it is, however
  much follows.
  -/
  stays : ∀ later key entry, cache.get? key = some entry →
    (∀ operation ∈ later, operation.touches key = false) →
    (cache.after later).get? key = some entry ∨
      ∃ earlier other light rest,
        later = earlier ++ .put other light :: rest ∧
        (cache.after earlier).Displaces other light key

namespace Orderly

variable
    {cache : LightCache}
    {capacity : Nat}
    {operations : List CacheOperation}
    {shelf : List (UInt64 × CacheEntry)}
    (orderly : cache.Orderly capacity operations shelf)
include orderly

theorem size_le : cache.size ≤ capacity :=
  orderly.shelved.size_eq ▸ orderly.length_le

theorem get?_of_no_room
    (roomless : capacity = 0)
    (key : UInt64) :
    cache.get? key = none := by
  obtain rfl : shelf = [] :=
    List.eq_nil_of_length_eq_zero
      (Nat.le_zero.1 (roomless ▸ orderly.length_le))
  exact Option.eq_none_iff_forall_ne_some.2 fun entry found =>
    List.not_mem_nil ((orderly.shelved.mem_iff key entry).2 found)

theorem stamp_inj
    {key other : UInt64}
    {entry second : CacheEntry}
    (known : cache.get? key = some entry)
    (found : cache.get? other = some second)
    (same : entry.stamp = second.stamp) :
    key = other := by
  have first := (orderly.shelved.mem_iff key entry).2 known
  have later := (orderly.shelved.mem_iff other second).2 found
  have distinct : (shelf.map fun item => item.2.stamp).Nodup := by
    rw [List.Nodup, List.pairwise_map]
    exact orderly.shelved.growing.imp Nat.ne_of_lt
  exact congrArg Prod.fst (List.inj_on_of_nodup_map distinct first later same)

/--
The front of the shelf, of as many entries as are dropped at once, makes room.
-/
theorem exists_dropped
    (roomy : capacity ≠ 0)
    {key : UInt64}
    (unknown : cache.get? key = none)
    (full : cache.size = capacity)
    (light : ColumnLight) :
    ∃ dropped : List UInt64, dropped.Nodup ∧
      dropped.length = max (capacity / 4) 1 ∧
      (∀ first ∈ dropped, (cache.get? first).isSome = true ∧
        ∀ kept, (cache.get? kept).isSome = true → kept ∉ dropped →
          age kept operations < age first operations) ∧
      ∀ other, other ≠ key →
        (cache.put key light).get? other =
          if other ∈ dropped then none else cache.get? other := by
  have quota : cache.quota = max (capacity / 4) 1 := by
    rw [LightCache.quota, orderly.capacity_eq, Nat.max_comm]
  have whole := orderly.shelved.nodup_keys
  rw [← List.take_append_drop cache.quota shelf, List.map_append,
    List.nodup_append] at whole
  obtain ⟨distinct, -, apart⟩ := whole
  refine ⟨(shelf.take cache.quota).map Prod.fst, distinct, ?_, ?_, ?_⟩
  · rw [List.length_map, List.length_take, ← orderly.shelved.size_eq, full,
      quota]
    omega
  · intro first member
    obtain ⟨old, front, rfl⟩ := List.mem_map.1 member
    have found :=
      (orderly.shelved.mem_iff old.1 old.2).1 (List.mem_of_mem_take front)
    refine ⟨Option.isSome_iff_exists.2 ⟨_, found⟩, fun kept held behind => ?_⟩
    obtain ⟨entry, known⟩ := Option.isSome_iff_exists.1 held
    have member := (orderly.shelved.mem_iff kept entry).2 known
    rw [← List.take_append_drop cache.quota shelf, List.mem_append] at member
    rcases member with early | late
    · exact absurd (List.mem_map_of_mem early) behind
    · exact orderly.aging.rel_of_mem_take_of_mem_drop front late
  · intro other different
    have evicted := orderly.shelved.evict
    rw [get?_put_of_ne (orderly.capacity_eq ▸ roomy) different,
      makeRoom_of_full unknown (orderly.capacity_eq.trans full.symm).le]
    apply Option.ext
    intro entry
    rw [← evicted.mem_iff other entry]
    split
    · next front =>
        refine iff_of_false (fun behind => ?_)
          (Option.some_ne_none entry).symm
        exact apart other front other (List.mem_map_of_mem behind) rfl
    · next behind =>
        rw [← orderly.shelved.mem_iff]
        refine ⟨List.mem_of_mem_drop, fun member => ?_⟩
        rw [← List.take_append_drop cache.quota shelf, List.mem_append]
          at member
        exact member.resolve_left fun front =>
          behind (List.mem_map_of_mem front)

theorem get?_put_of_room
    {key other : UInt64}
    (room : (cache.get? key).isSome = true ∨ cache.size < capacity)
    (apart : other ≠ key)
    (light : ColumnLight) :
    (cache.put key light).get? other = cache.get? other := by
  have roomy : capacity ≠ 0 := by
    intro roomless
    rcases room with known | fits
    · rw [orderly.get?_of_no_room roomless key] at known
      exact Bool.false_ne_true known
    · exact Nat.not_lt_zero _ (roomless ▸ fits)
  rw [get?_put_of_ne (orderly.capacity_eq ▸ roomy) apart,
    makeRoom_of_room (orderly.capacity_eq ▸ room)]

/--
An operation that does not touch a key leaves its entry as it is, or displaces
it.
-/
theorem get?_perform_or_displaces
    {operation : CacheOperation}
    {key : UInt64}
    {entry : CacheEntry}
    (known : cache.get? key = some entry)
    (spared : operation.touches key = false) :
    (cache.perform operation).get? key = some entry ∨
      ∃ other light, operation = .put other light ∧
        cache.Displaces other light key := by
  cases operation with
  | get other => exact Or.inl known
  | clear => cases spared
  | invalidate other =>
      rw [perform, get?, LightCache.invalidate, Std.HashMap.getElem?_erase,
        if_neg]
      · exact Or.inl known
      · exact fun same => of_decide_eq_false spared (eq_of_beq same)
  | put other light =>
      have apart : key ≠ other := Ne.symm (of_decide_eq_false spared)
      by_cases room : (cache.get? other).isSome = true ∨ cache.size < capacity
      · exact Or.inl ((orderly.get?_put_of_room room apart light).trans known)
      · obtain ⟨unknown, full⟩ := not_or.1 room
        rw [Bool.not_eq_true, Option.isSome_eq_false_iff,
          Option.isNone_iff_eq_none] at unknown
        have full : cache.size = capacity :=
          orderly.size_le.antisymm (Nat.le_of_not_lt full)
        have roomy : capacity ≠ 0 := by
          intro roomless
          rw [orderly.get?_of_no_room roomless key] at known
          cases known
        obtain ⟨dropped, -, -, -, found⟩ :=
          orderly.exists_dropped roomy unknown full light
        have found := found key apart
        split at found
        · refine Or.inr
            ⟨other, light, rfl, unknown, full.trans orderly.capacity_eq.symm,
              ?_, found⟩
          exact Option.isSome_iff_exists.2 ⟨entry, known⟩
        · exact Or.inl (found.trans known)

end Orderly

/--
Whatever is stored in a new cache, looked up and dropped, it holds at most as
many entries as its capacity, no two with one stamp.  What was just stored is
found.  A key that is there, or one more that fits, drops nothing else; a new
key in a full cache drops as many entries as a quarter of the capacity, one at
least, and just those that were stored longest ago.  What is neither written
over nor dropped is found unchanged, and a cache without room keeps nothing.
-/
theorem evictsOldest_after
    (capacity : Nat)
    (workers : Option WorkerPool)
    (operations : List CacheOperation) :
    ((create capacity workers).after operations).EvictsOldest capacity
      operations := by
  obtain ⟨shelf, orderly⟩ := exists_orderly_after capacity workers operations
  refine ⟨orderly.size_le, orderly.get?_of_no_room, fun _ _ _ _ =>
    orderly.stamp_inj,
      fun key entry found => ?_, fun roomy key light =>
        ?_, fun key light room other apart => ?_,
      fun roomy key light unknown full => ?_, fun key other => ?_, fun key =>
        ?_,
      fun later key entry found spared => ?_⟩
  · exact orderly.known (key, entry)
      ((orderly.shelved.mem_iff key entry).2 found)
  · obtain ⟨stamp, found⟩ :=
      get?_put_self (orderly.capacity_eq ▸ roomy) key light
    rw [found, Option.map_some]
  · exact orderly.get?_put_of_room room apart light
  · exact orderly.exists_dropped roomy unknown full light
  · rw [get?, get?, invalidate, Std.HashMap.getElem?_erase]
    simp only [beq_iff_eq, @eq_comm _ key]
  · exact Std.HashMap.getElem?_empty
  · induction later using List.reverseRecOn with
    | nil => exact Or.inl found
    | append_singleton later operation ih =>
        have before :=
          ih fun other member => spared other (List.mem_append_left _ member)
        rcases before with
          stays | ⟨earlier, other, light, rest, same, displaced⟩
        · obtain ⟨current, kept⟩ :=
            exists_orderly_after capacity workers (operations ++ later)
          rw [after_append] at kept
          have last := kept.get?_perform_or_displaces stays
            (spared operation (List.mem_append_right _ List.mem_cons_self))
          rcases last with stays | ⟨other, light, rfl, displaced⟩
          · rw [after_append]
            exact Or.inl stays
          · exact Or.inr ⟨later, other, light, [], rfl, displaced⟩
        · exact Or.inr ⟨earlier, other, light, rest ++ [operation],
            by rw [same, List.append_assoc, List.cons_append], displaced⟩

end LightCache

end VoxelRelay
