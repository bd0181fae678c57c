/-!
# First in, first out

A queue as two lists: the entries next in turn, and those that joined later in
reverse.  Taking an entry turns the second list around when the first one is
used up.  `toList` is the view of a queue as the list of its entries in turn;
each operation is described through it.
-/

namespace VoxelRelay

/-- A queue. -/
structure Fifo (α : Type) where
  /-- The entries next in turn. -/
  front : List α
  /-- The entries that joined later, the last one first. -/
  back : List α
deriving Repr, Inhabited

namespace Fifo

variable {α : Type}

/-- The queue without entries. -/
def empty : Fifo α := ⟨[], []⟩

/-- The entries in turn. -/
def toList (queue : Fifo α) : List α := queue.front ++ queue.back.reverse

/-- The number of entries. -/
def length (queue : Fifo α) : Nat := queue.front.length + queue.back.length

/-- Lets an entry join at the end. -/
@[inline]
def push
    (queue : Fifo α)
    (entry : α) : Fifo α := ⟨queue.front, entry :: queue.back⟩

/-- Takes the entry whose turn it is. -/
@[inline]
def pop? (queue : Fifo α) : Option (α × Fifo α) :=
  match queue.front with
  | entry :: rest => some (entry, ⟨rest, queue.back⟩)
  | [] =>
      match queue.back.reverse with
      | entry :: rest => some (entry, ⟨rest, []⟩)
      | [] => none

@[simp]
theorem toList_push
    (queue : Fifo α)
    (entry : α) :
    (queue.push entry).toList = queue.toList ++ [entry] := by
  simp [push, toList]

@[simp]
theorem length_toList (queue : Fifo α) :
    queue.toList.length = queue.length := by
  simp [toList, length]

theorem pop?_eq_none_iff (queue : Fifo α) :
    queue.pop? = none ↔ queue.toList = [] := by
  unfold pop? toList
  cases queue.front with
  | cons entry rest => simp
  | nil =>
      cases queue.back.reverse with
      | nil => simp
      | cons entry rest => simp

theorem pop?_eq_some
    {queue rest : Fifo α}
    {entry : α}
    (taken : queue.pop? = some (entry, rest)) :
    queue.toList = entry :: rest.toList := by
  unfold pop? at taken
  unfold toList
  split at taken
  · next equal =>
      cases taken
      simp [equal]
  · next equal =>
      split at taken
      · next reversed =>
          cases taken
          simp [equal, reversed]
      · cases taken

end Fifo

end VoxelRelay
