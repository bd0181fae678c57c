import Std.Data.HashMap
import VoxelRelay.Light.Block
import VoxelRelay.Light.Key
import VoxelRelay.Light.Workers

/-!
# The light cache

Results of light computations are kept under their keys, up to a greatest
number.  Each entry is stamped when it is stored; when a new key meets a full
cache, the oldest quarter of what the cache may hold, at least one entry, is
dropped first.  A cache of size zero keeps nothing.
-/

namespace VoxelRelay

/-- A stored result. -/
structure CacheEntry where
  light : ColumnLight
  /-- The order of storing; a larger stamp is newer. -/
  stamp : Nat
deriving DecidableEq, Repr, Inhabited

/-- A bounded store of light, by key. -/
structure LightCache where
  capacity : Nat
  entries : Std.HashMap UInt64 CacheEntry
  /-- The stamp of the next entry. -/
  clock : Nat
  workers : Option WorkerPool

namespace LightCache

/-- A cache without entries. -/
def create (capacity : Nat) (workers : Option WorkerPool) : LightCache :=
  ⟨capacity, ∅, 0, workers⟩

/-- The number of entries. -/
def size (cache : LightCache) : Nat := cache.entries.size

/-- The entry under a key. -/
def get?
    (cache : LightCache)
    (key : UInt64) : Option CacheEntry := cache.entries[key]?

/-- The stamps of all entries, the oldest first. -/
def stamps (cache : LightCache) : List Nat :=
  (cache.entries.toList.map fun entry => entry.2.stamp).mergeSort (· ≤ ·)

/-- The number of entries to drop at once. -/
def quota (cache : LightCache) : Nat := max 1 (cache.capacity / 4)

/-- Drops the entries with the oldest stamps, as many as the quota. -/
def evict (cache : LightCache) : LightCache :=
  match cache.stamps.take cache.quota |>.getLast? with
  | none => cache
  | some newest =>
      { cache with entries := cache.entries.filter fun _ entry =>
        newest < entry.stamp }

/-- Drops old entries if a new key would not fit. -/
def makeRoom (cache : LightCache) (key : UInt64) : LightCache :=
  if !cache.entries.contains key && decide (cache.capacity ≤ cache.size) then
    cache.evict
  else cache

/-- Stores a result under a key, over an earlier one. -/
def put
    (cache : LightCache)
    (key : UInt64)
    (light : ColumnLight) : LightCache :=
  if cache.capacity = 0 then cache
  else
    let roomy := cache.makeRoom key
    { roomy with
      entries := roomy.entries.insert key ⟨light, roomy.clock⟩
      clock := roomy.clock + 1 }

/-- Drops the entry under a key. -/
def invalidate (cache : LightCache) (key : UInt64) : LightCache :=
  { cache with entries := cache.entries.erase key }

/-- Drops all entries. -/
def clear (cache : LightCache) : LightCache := { cache with entries := ∅ }

/-- Computes light, by the workers if there are any. -/
def compute
    (cache : LightCache)
    (properties : LightProperties)
    (input : LightInput) : ColumnLight :=
  match cache.workers with
  | none => input.light properties
  | some pool => {
      sky :=
        (pool.submit? fun _ => input.skyLight properties).getD
          (input.skyLight properties)
      block :=
        (pool.submit? fun _ => input.blockLight properties).getD
          (input.blockLight properties) }

/--
Looks up the light for an input, computing and storing it when it is not
there.
-/
def getOrCompute
    (cache : LightCache)
    (properties : LightProperties)
    (input : LightInput) : ColumnLight × LightCache :=
  let key := input.key
  match cache.get? key with
  | some entry => (entry.light, cache)
  | none =>
      let light := cache.compute properties input
      (light, cache.put key light)

end LightCache

end VoxelRelay
