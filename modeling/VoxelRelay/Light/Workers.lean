/-!
# Workers

Light may be computed by a pool of workers.  A pool has at least one worker
and no more than the machine has processors, and takes jobs until it is
closed.  A job is a value to compute; who computes it does not change what
comes out.
-/

namespace VoxelRelay

/-- A pool of workers. -/
structure WorkerPool where
  workers : Nat
  accepting : Bool
deriving DecidableEq, Repr, Inhabited

namespace WorkerPool

/--
Opens a pool of the asked number of workers, within what the machine allows.
-/
def create (asked processors : Nat) : WorkerPool :=
  ⟨max 1 (min asked (max 1 processors)), true⟩

/-- Hands in a job; refused when the pool is closed. -/
def submit? {α : Type} (pool : WorkerPool) (job : Unit → α) : Option α :=
  if pool.accepting then some (job ()) else none

/-- Closes the pool and lets its workers go. -/
def close (_pool : WorkerPool) : WorkerPool := ⟨0, false⟩

end WorkerPool

end VoxelRelay
