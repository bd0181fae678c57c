import Mathlib.Data.List.Perm.Basic
import VoxelRelay.Proofs.StoreRuns
import VoxelRelay.Proofs.TickMessages

/-!
# Every due column gets its turn

A tick sends as many of the due columns as its budget allows, and leaves the
others due.  As long as nothing but ticks happens, no column joins those that
are due, and none that is loaded and shown is passed over: after some ticks the
columns that were sent and those that are still due are the columns that were
due at first, each of them once.
-/

namespace VoxelRelay

namespace ColumnQueue

/-- Exactly the listed columns wait in a queue, in whatever turn. -/
structure Waiting
    (queue : ColumnQueue)
    (waiting : List ColumnPos) : Prop where
  lined : queue.Lined
  nodup : waiting.Nodup
  contains_iff : ∀ pos, queue.contains pos = true ↔ pos ∈ waiting

namespace Waiting

variable
    {queue rest : ColumnQueue}
    {waiting : List ColumnPos}
    {pos : ColumnPos}

theorem empty : ColumnQueue.empty.Waiting [] where
  lined := lined_empty
  nodup := List.nodup_nil
  contains_iff := fun pos =>
    iff_of_false (not_contains_empty pos) List.not_mem_nil

theorem remove
    (waits : queue.Waiting waiting)
    (pos : ColumnPos) :
    (queue.remove pos).Waiting (waiting.erase pos) where
  lined := waits.lined.remove pos
  nodup := waits.nodup.erase pos
  contains_iff := by
    intro other
    rw [contains_remove_iff, waits.contains_iff, waits.nodup.mem_erase_iff]

theorem pop?
    (waits : queue.Waiting waiting)
    (taken : queue.pop? = some (pos, rest)) :
    pos ∈ waiting ∧ rest.Waiting (waiting.erase pos) := by
  obtain ⟨waited, remaining⟩ := pop?_eq_some taken
  refine ⟨(waits.contains_iff pos).1 waited, waits.lined.pop? taken,
    waits.nodup.erase pos, ?_⟩
  intro other
  rw [remaining, waits.contains_iff, waits.nodup.mem_erase_iff]

theorem eq_nil_of_pop?_eq_none
    (waits : queue.Waiting waiting)
    (none : queue.pop? = none) :
    waiting = [] := by
  apply List.eq_nil_iff_forall_not_mem.2
  intro pos member
  exact waits.lined.idle_of_pop?_eq_none none pos
    ((waits.contains_iff pos).2 member)

end Waiting

end ColumnQueue

namespace Store

/-- Exactly the listed columns are due, and the store can send each of them. -/
structure Due (store : Store) (waiting : List ColumnPos) : Prop where
  waits : store.dirty.Waiting waiting
  shown : ∀ pos ∈ waiting, ∃ column, store.column? pos = some column ∧
    column.pos = pos

/-- Sending a column does not matter to those that are due. -/
theorem Due.congr
    {store other : Store}
    {waiting : List ColumnPos}
    (due : store.Due waiting)
    (same : store.SameView other)
    (dirty : other.dirty = store.dirty) :
    other.Due waiting where
  waits := dirty ▸ due.waits
  shown := by
    intro pos member
    rw [same.column?_eq]
    exact due.shown pos member

end Store

namespace TickState

/--
As many of the due columns are sent as the budget allows, and the others stay
due.
-/
theorem exists_shown_sendDue
    (budget : Nat)
    {state : TickState}
    {waiting : List ColumnPos}
    (due : state.store.Due waiting) :
    ∃ told rest, (told ++ rest).Perm waiting ∧
      told.length = min budget waiting.length ∧
      (state.sendDue budget).store.Due rest ∧
      Message.shown (state.sendDue budget).messages.reverse =
        Message.shown state.messages.reverse ++ told := by
  induction budget generalizing state waiting with
  | zero =>
      exact ⟨[], waiting, .refl _, (Nat.zero_min _).symm, due,
        (List.append_nil _).symm⟩
  | succ budget ih =>
      rw [sendDue]
      split
      · next none =>
          obtain rfl := due.waits.eq_nil_of_pop?_eq_none none
          exact ⟨[], [], .refl _, rfl, due, (List.append_nil _).symm⟩
      · next pos dirty taken =>
          let next : TickState :=
            { state with store := { state.store with dirty := dirty } }
          obtain ⟨waited, remaining⟩ := due.waits.pop? taken
          obtain ⟨column, loaded, here⟩ := due.shown pos waited
          have left : next.store.Due (waiting.erase pos) :=
            ⟨remaining, fun other member =>
              due.shown other (List.mem_of_mem_erase member)⟩
          have later :=
            left.congr (next.sameView_sendColumn pos)
              (next.dirty_sendColumn pos)
          obtain ⟨told, rest, all, count, due, shown⟩ := ih later
          have first : Message.shown (next.sendColumn pos).messages.reverse =
              Message.shown state.messages.reverse ++ [pos] := by
            rw [(@sendColumn_of_loaded next pos column loaded).2,
              List.reverse_cons, Message.shown_append]
            exact congrArg (fun pos => _ ++ [pos]) here
          refine ⟨pos :: told, rest, ?_, ?_, due, ?_⟩
          · exact (all.cons pos).trans (List.perm_cons_erase waited).symm
          · have positive : 0 < waiting.length :=
              List.length_pos_of_mem waited
            rw [List.length_erase_of_mem waited] at count
            rw [List.length_cons, count]
            omega
          · rw [shown, first, List.append_assoc, List.singleton_append]

end TickState

namespace Store

/--
A tick sends as many of the due columns as its budget allows, and leaves the
others due.
-/
theorem Due.tick
    {store : Store}
    {waiting : List ColumnPos}
    (due : store.Due waiting)
    (cache : LightCache)
    (spawned : Bool) :
    let outcome := (store.tick cache spawned).1
    ∃ rest, (Message.shown outcome.messages ++ rest).Perm waiting ∧
      rest.length = waiting.length - store.settings.scheduler.columnsPerTick ∧
      outcome.store.Due rest ∧ store.SameView outcome.store := by
  intro outcome
  let start : TickState := ⟨store, cache, [], [], ⟨0, 0, 0, 0⟩⟩
  let budget := store.settings.scheduler.columnsPerTick
  obtain ⟨told, rest, all, count, left, shown⟩ :=
    TickState.exists_shown_sendDue budget
      (show start.store.Due waiting from due)
  obtain ⟨light, relight, wanted, inFlight, after⟩ :=
    store.exists_store_tick cache spawned
  have sent : Message.shown outcome.messages = told :=
    (store.shown_tick cache spawned).trans shown
  have kept : (start.sendDue budget).store.SameView outcome.store := by
    rw [show outcome.store = _ from after]
    exact ⟨rfl, rfl, rfl, rfl⟩
  have dirty : outcome.store.dirty = (start.sendDue budget).store.dirty := by
    rw [show outcome.store = _ from after]
    rfl
  refine ⟨rest, sent.symm ▸ all, ?_, left.congr kept dirty,
    (start.sameView_sendDue budget).trans kept⟩
  have total := all.length_eq
  rw [List.length_append, count] at total
  omega

/-- One tick after another, each with the cache it finds. -/
def ticks (rounds : List (LightCache × Bool)) : List StoreOperation :=
  rounds.map fun round => .tick round.1 round.2

/--
After some ticks, the columns that were sent and those that are still due are
the columns that were due, and as many are still due as the budget makes it.
-/
theorem Due.ticks
    {store : Store}
    {waiting : List ColumnPos}
    (due : store.Due waiting)
    (rounds : List (LightCache × Bool)) :
    ∃ rest,
      (Message.shown (store.history (Store.ticks rounds)) ++ rest).Perm
        waiting ∧
      rest.length =
        waiting.length -
          rounds.length * store.settings.scheduler.columnsPerTick ∧
      (store.run (Store.ticks rounds)).Due rest := by
  induction rounds generalizing store waiting with
  | nil =>
      exact ⟨waiting, .refl _,
        by rw [List.length_nil, Nat.zero_mul, Nat.sub_zero], due⟩
  | cons round rounds ih =>
      obtain ⟨between, first, count, left, kept⟩ := due.tick round.1 round.2
      obtain ⟨rest, later, total, done⟩ := ih left
      refine ⟨rest, ?_, ?_, done⟩
      · have split :
            Message.shown (store.history (Store.ticks (round :: rounds))) =
            Message.shown (store.tick round.1 round.2).1.messages ++
              Message.shown
                ((store.tick round.1 round.2).1.store.history
                  (Store.ticks rounds)) :=
          Message.shown_append _ _
        rw [split, List.append_assoc]
        exact (later.append_left _).trans first
      · rw [total, count, kept.settings_eq, List.length_cons, Nat.succ_mul]
        omega

end Store

end VoxelRelay
