import Std.Data.TreeMap
import VoxelRelay.Fifo
import VoxelRelay.Position

/-!
# Queues of columns

Columns wait in line at most once.  An entry in the line carries the ticket
with which it joined, and the ticket of each waiting column is kept beside the
line; dropping a column only withdraws its ticket, and an entry whose ticket
is no longer the column's is passed over when its turn comes.  So a column
that was dropped and joined again comes up at its new place.

`toList` is the view of a queue as the list of waiting columns in turn.
-/

namespace VoxelRelay

/-- A queue of columns without repetitions. -/
structure ColumnQueue where
  /--
  Keys of columns with the tickets of their entries, some of them withdrawn.
  -/
  line : Fifo (Int64 × Nat)
  /-- The ticket of each waiting column, by key. -/
  tickets : Std.TreeMap Int64 Nat
  /-- The next ticket. -/
  next : Nat

namespace ColumnQueue

/-- The queue in which nothing waits. -/
def empty : ColumnQueue := ⟨.empty, ∅, 0⟩

instance : Inhabited ColumnQueue := ⟨empty⟩

/-- Whether a column waits. -/
def contains
    (queue : ColumnQueue)
    (pos : ColumnPos) : Bool := queue.tickets.contains pos.key

/-- The number of waiting columns. -/
def size (queue : ColumnQueue) : Nat := queue.tickets.size

/-- Whether an entry in the line still counts. -/
def isLive (tickets : Std.TreeMap Int64 Nat) (entry : Int64 × Nat) : Bool :=
  tickets[entry.1]? == some entry.2

/-- Lets a column join unless it waits already. -/
def push (queue : ColumnQueue) (pos : ColumnPos) : ColumnQueue :=
  if queue.contains pos then queue
  else
    { line := queue.line.push (pos.key, queue.next)
      tickets := queue.tickets.insert pos.key queue.next
      next := queue.next + 1 }

/-- Drops a column from the queue. -/
def remove (queue : ColumnQueue) (pos : ColumnPos) : ColumnQueue :=
  { queue with tickets := queue.tickets.erase pos.key }

/-- Lets a column join unless it waits already, and says whether it joined. -/
def join (queue : ColumnQueue) (pos : ColumnPos) : Bool × ColumnQueue :=
  if queue.contains pos then (false, queue) else (true, queue.push pos)

/--
Drops a column from the queue, and says whether it waited: whether there was a
ticket.
-/
def leave (queue : ColumnQueue) (pos : ColumnPos) : Bool × ColumnQueue :=
  (queue.tickets[pos.key]?.isSome, queue.remove pos)

/-- The entries from the first that still counts on. -/
def skipWithdrawn (tickets : Std.TreeMap Int64 Nat) :
    List (Int64 × Nat) → List (Int64 × Nat)
  | [] => []
  | entry :: rest =>
      if isLive tickets entry then entry :: rest
      else skipWithdrawn tickets rest

/-- Takes the column whose turn it is. -/
def pop? (queue : ColumnQueue) : Option (ColumnPos × ColumnQueue) :=
  match skipWithdrawn queue.tickets queue.line.front with
  | entry :: rest =>
      some (.ofKey entry.1,
        { queue with
          line := ⟨rest, queue.line.back⟩
          tickets := queue.tickets.erase entry.1 })
  | [] =>
      match skipWithdrawn queue.tickets queue.line.back.reverse with
      | entry :: rest =>
          some (.ofKey entry.1,
            { queue with
              line := ⟨rest, []⟩, tickets := queue.tickets.erase entry.1 })
      | [] => none

/-- The waiting columns in turn. -/
def toList (queue : ColumnQueue) : List ColumnPos :=
  (queue.line.toList.filter (isLive queue.tickets)).map fun entry =>
    .ofKey entry.1

end ColumnQueue

end VoxelRelay
