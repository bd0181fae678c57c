import Mathlib.Data.List.Nodup
import VoxelRelay.Proofs.ColumnQueues

/-!
# Columns come up in turn

A queue of columns behaves as the list of the columns that wait, without
repetitions: who joins goes to its end unless it is there, who is taken was its
first, and who is dropped is removed from wherever it stands.  Entries that were
withdrawn stay in the line of a queue, and a column that joins again has several
of them.  They are told apart by their tickets: tickets grow along the line, so
no two entries have one ticket, and at most one entry of a column has the ticket
that is the column's now.

The main result is `transcript_onQueue_eq_onList`.
-/

namespace VoxelRelay

namespace ColumnQueue

/-! ## Entries that count -/

theorem isLive_iff
    {tickets : Std.TreeMap Int64 Nat}
    {entry : Int64 × Nat} :
    isLive tickets entry = true ↔ tickets[entry.1]? = some entry.2 := by
  rw [isLive, beq_iff_eq]

theorem isLive_insert
    (tickets : Std.TreeMap Int64 Nat)
    (key : Int64)
    (ticket : Nat)
    (entry : Int64 × Nat) :
    isLive (tickets.insert key ticket) entry =
      if entry.1 = key then decide (entry.2 = ticket)
      else isLive tickets entry := by
  rw [Bool.eq_iff_iff, isLive_iff, Std.TreeMap.getElem?_insert]
  simp only [Std.compare_eq_iff_eq, @eq_comm _ key]
  split
  · simp [eq_comm]
  · exact isLive_iff.symm

theorem isLive_erase
    (tickets : Std.TreeMap Int64 Nat)
    (key : Int64)
    (entry : Int64 × Nat) :
    isLive (tickets.erase key) entry =
      (decide (entry.1 ≠ key) && isLive tickets entry) := by
  rw [Bool.eq_iff_iff, isLive_iff, Std.TreeMap.getElem?_erase,
    Bool.and_eq_true, decide_eq_true_eq, isLive_iff]
  simp only [Std.compare_eq_iff_eq, @eq_comm _ key]
  split
  · next same => simp [same]
  · next apart => simp [apart]

/-- Entries that were withdrawn are passed over up to the first that was not. -/
theorem skipWithdrawn_eq_dropWhile
    (tickets : Std.TreeMap Int64 Nat)
    (entries : List (Int64 × Nat)) :
    skipWithdrawn tickets entries =
      entries.dropWhile (!isLive tickets ·) := by
  induction entries with
  | nil => rfl
  | cons entry rest ih =>
      rw [skipWithdrawn, List.dropWhile_cons, ih]
      cases isLive tickets entry <;> rfl

theorem filter_isLive_skipWithdrawn
    (tickets : Std.TreeMap Int64 Nat)
    (entries : List (Int64 × Nat)) :
    (skipWithdrawn tickets entries).filter (isLive tickets) =
      entries.filter (isLive tickets) := by
  induction entries with
  | nil => rfl
  | cons entry rest ih =>
      rw [skipWithdrawn]
      split
      · rfl
      · next withdrawn => rw [ih, List.filter_cons_of_neg withdrawn]

/--
Taking a column passes over the line up to its entry, and withdraws its
ticket.
-/
theorem exists_skipWithdrawn_of_pop?_eq_some
    {queue rest : ColumnQueue}
    {pos : ColumnPos}
    (taken : queue.pop? = some (pos, rest)) :
    ∃ entry, skipWithdrawn queue.tickets queue.line.toList =
      entry :: rest.line.toList ∧
      pos = .ofKey entry.1 ∧ rest.tickets = queue.tickets.erase entry.1 ∧
      rest.next = queue.next := by
  have joined : skipWithdrawn queue.tickets queue.line.toList =
      if (skipWithdrawn queue.tickets queue.line.front).isEmpty then
        skipWithdrawn queue.tickets queue.line.back.reverse
      else skipWithdrawn queue.tickets queue.line.front ++
          queue.line.back.reverse := by
    simp only [skipWithdrawn_eq_dropWhile]
    exact List.dropWhile_append
  rw [joined]
  unfold pop? at taken
  split at taken
  · next entry later first =>
      cases taken
      rw [first]
      exact ⟨entry, rfl, rfl, rfl, rfl⟩
  · next drained =>
      split at taken
      · next entry later first =>
          cases taken
          rw [drained, first]
          exact ⟨entry, by simp [Fifo.toList], rfl, rfl, rfl⟩
      · cases taken

/-! ## Tickets -/

/--
The line of a queue shows who waits: a column that waits has its entry there,
and tickets grow along the line.
-/
structure Ticketed (queue : ColumnQueue) : Prop where
  lined : queue.Lined
  growing : queue.line.toList.Pairwise fun early late => early.2 < late.2
  below : ∀ entry ∈ queue.line.toList, entry.2 < queue.next

theorem ticketed_empty : empty.Ticketed where
  lined := lined_empty
  growing := List.Pairwise.nil
  below := fun _ member => absurd member List.not_mem_nil

section

variable {queue : ColumnQueue} (ticketed : queue.Ticketed)
include ticketed

theorem Ticketed.push (pos : ColumnPos) : (queue.push pos).Ticketed where
  lined := ticketed.lined.push pos
  growing := by
    rw [ColumnQueue.push]
    split
    · exact ticketed.growing
    · rw [Fifo.toList_push, List.pairwise_append]
      refine ⟨ticketed.growing, List.pairwise_singleton _ _, ?_⟩
      intro early member late last
      rw [List.mem_singleton.1 last]
      exact ticketed.below early member
  below := by
    rw [ColumnQueue.push]
    split
    · exact ticketed.below
    · intro entry member
      rw [Fifo.toList_push, List.mem_append] at member
      rcases member with before | last
      · exact Nat.lt_succ_of_lt (ticketed.below entry before)
      · rw [List.mem_singleton.1 last]
        exact Nat.lt_succ_self _

theorem Ticketed.remove (pos : ColumnPos) : (queue.remove pos).Ticketed :=
  ⟨ticketed.lined.remove pos, ticketed.growing, ticketed.below⟩

theorem Ticketed.pop?
    {rest : ColumnQueue}
    {pos : ColumnPos}
    (taken : queue.pop? = some (pos, rest)) :
    rest.Ticketed := by
  obtain ⟨entry, skipped, -, -, next⟩ :=
    exists_skipWithdrawn_of_pop?_eq_some taken
  have behind : (entry :: rest.line.toList).Sublist queue.line.toList := by
    rw [← skipped, skipWithdrawn_eq_dropWhile]
    exact List.dropWhile_sublist _
  have left := (List.sublist_cons_self entry _).trans behind
  refine ⟨ticketed.lined.pop? taken, ticketed.growing.sublist left,
    fun other member => ?_⟩
  rw [next]
  exact ticketed.below other (left.subset member)

/-- No two entries that count belong to one column. -/
theorem Ticketed.pairwise_key_ne :
    (queue.line.toList.filter (isLive queue.tickets)).Pairwise
      fun early late => early.1 ≠ late.1 := by
  refine (List.pairwise_filter.2 (ticketed.growing.imp ?_))
  intro early late before liveEarly liveLate same
  rw [isLive_iff] at liveEarly liveLate
  rw [same, liveLate] at liveEarly
  exact Nat.ne_of_gt before (Option.some.inj liveEarly)

/-! ## The waiting columns in turn -/

/-- The list of waiting columns has those that wait. -/
theorem Ticketed.mem_toList_iff (pos : ColumnPos) :
    pos ∈ queue.toList ↔ queue.contains pos = true := by
  rw [toList, List.mem_map]
  constructor
  · rintro ⟨entry, member, rfl⟩
    exact contains_of_isLive (List.mem_filter.1 member).2
  · intro waits
    rw [contains, Std.TreeMap.contains_eq_isSome_getElem?] at waits
    obtain ⟨ticket, known⟩ := Option.isSome_iff_exists.1 waits
    exact ⟨(pos.key, ticket),
      List.mem_filter.2
        ⟨ticketed.lined pos.key ticket known, isLive_iff.2 known⟩,
      ColumnPos.ofKey_key pos⟩

theorem Ticketed.contains_eq (pos : ColumnPos) :
    queue.contains pos = decide (pos ∈ queue.toList) := by
  rw [Bool.eq_iff_iff, decide_eq_true_eq, ticketed.mem_toList_iff]

/-- No column waits twice. -/
theorem Ticketed.nodup_toList : queue.toList.Nodup := by
  rw [toList, List.Nodup, List.pairwise_map]
  apply ticketed.pairwise_key_ne.imp
  intro early late apart same
  apply apart
  rw [← ColumnPos.key_ofKey early.1, same, ColumnPos.key_ofKey]

/-- There are as many tickets as columns that wait. -/
theorem Ticketed.size_eq : queue.size = queue.toList.length := by
  have distinct : queue.tickets.toList.Nodup := by
    apply Std.TreeMap.distinct_keys_toList.imp
    rintro early late apart rfl
    exact apart Std.ReflCmp.compare_self
  have counting :
      (queue.line.toList.filter (isLive queue.tickets)).Nodup := by
    apply ticketed.pairwise_key_ne.imp
    rintro early late apart rfl
    exact apart rfl
  have same :
      queue.tickets.toList.Perm
        (queue.line.toList.filter (isLive queue.tickets)) := by
    refine (List.perm_ext_iff_of_nodup distinct counting).2 fun entry => ?_
    rw [Std.TreeMap.mem_toList_iff_getElem?_eq_some, List.mem_filter,
      isLive_iff]
    exact ⟨fun known =>
      ⟨ticketed.lined entry.1 entry.2 known, known⟩, And.right⟩
  rw [size, ← Std.TreeMap.length_toList, same.length_eq, toList,
    List.length_map]

/-- Who joins goes to the end. -/
theorem Ticketed.toList_push (pos : ColumnPos) :
    (queue.push pos).toList =
      if pos ∈ queue.toList then queue.toList else queue.toList ++ [pos] := by
  simp only [ticketed.mem_toList_iff]
  rw [ColumnQueue.push]
  split
  · rfl
  · next absent =>
      have unticketed : queue.tickets[pos.key]? = none := by
        exact Std.TreeMap.getElem?_eq_none
          (mt Std.TreeMap.contains_iff_mem.2 absent)
      -- Entries of the column itself were withdrawn, and none of them has the
      -- new ticket.
      have before : queue.line.toList.filter
            (isLive (queue.tickets.insert pos.key queue.next)) =
          queue.line.toList.filter (isLive queue.tickets) := by
        apply List.filter_congr
        intro entry member
        rw [isLive_insert]
        split
        · next same =>
            rw [isLive, same, unticketed,
              decide_eq_false (ticketed.below entry member).ne]
            rfl
        · rfl
      have joined :
          isLive (queue.tickets.insert pos.key queue.next)
            (pos.key, queue.next) =
          true := by
        rw [isLive_insert, if_pos rfl, decide_eq_true rfl]
      simp only [toList]
      rw [Fifo.toList_push, List.filter_append, before,
        List.filter_cons_of_pos joined, List.map_append, List.filter_nil,
        List.map_singleton, ColumnPos.ofKey_key]

omit ticketed in
/--
Who is dropped is gone from wherever it stood, and the others keep their
order.
-/
theorem toList_remove
    (queue : ColumnQueue)
    (pos : ColumnPos) :
    (queue.remove pos).toList = queue.toList.filter (· ≠ pos) := by
  simp only [toList, remove, List.filter_map, List.filter_filter]
  congr 1
  apply List.filter_congr
  intro entry _
  have same : ColumnPos.ofKey entry.1 = pos ↔ entry.1 = pos.key := by
    rw [← ColumnPos.key_inj, ColumnPos.key_ofKey]
  simp [isLive_erase, same]

/-- Who is taken was the first. -/
theorem Ticketed.toList_of_pop?_eq_some
    {rest : ColumnQueue}
    {pos : ColumnPos}
    (taken : queue.pop? = some (pos, rest)) :
    queue.toList = pos :: rest.toList := by
  obtain ⟨entry, skipped, rfl, tickets, -⟩ :=
    exists_skipWithdrawn_of_pop?_eq_some taken
  have first : queue.line.toList.filter (isLive queue.tickets) =
      entry :: rest.line.toList.filter (isLive queue.tickets) := by
    rw [← filter_isLive_skipWithdrawn, skipped,
      List.filter_cons_of_pos (isLive_of_skipWithdrawn skipped)]
  have apart := ticketed.pairwise_key_ne
  rw [first, List.pairwise_cons] at apart
  -- No entry behind the first belongs to its column, so none is withdrawn
  -- with it.
  have behind : rest.line.toList.filter (isLive rest.tickets) =
      rest.line.toList.filter (isLive queue.tickets) := by
    apply List.filter_congr
    intro other member
    rw [tickets, isLive_erase]
    cases live : isLive queue.tickets other with
    | false => exact Bool.and_false _
    | true =>
        rw [decide_eq_true
          (apart.1 other (List.mem_filter.2 ⟨member, live⟩)).symm]
        rfl
  rw [toList, first, List.map_cons, toList, behind]

theorem Ticketed.toList_of_pop?_eq_none (none : queue.pop? = none) :
    queue.toList = [] := by
  rw [List.eq_nil_iff_forall_not_mem]
  intro pos waits
  exact ticketed.lined.idle_of_pop?_eq_none none pos
    ((ticketed.mem_toList_iff pos).1 waits)

end

end ColumnQueue

/-! ## Calls and answers -/

/-- What can be asked of a queue of columns. -/
inductive QueueCall where
  | push (pos : ColumnPos)
  | pop
  | remove (pos : ColumnPos)
  | contains (pos : ColumnPos)
  | size
deriving DecidableEq, Repr

/-- How a queue answers. -/
inductive QueueAnswer where
  /-- Whether a column joined, left, or waits. -/
  | told (holds : Bool)
  /-- Whose turn it is. -/
  | turn (first : Option ColumnPos)
  /-- How many wait. -/
  | count (size : Nat)
deriving DecidableEq, Repr

namespace QueueCall

/-- The answer of a queue to a call, and the queue after it. -/
def onQueue (queue : ColumnQueue) : QueueCall → QueueAnswer × ColumnQueue
  | push pos =>
      let (joined, after) := queue.join pos
      (.told joined, after)
  | pop =>
      match queue.pop? with
      | some (first, rest) => (.turn (some first), rest)
      | none => (.turn none, queue)
  | remove pos =>
      let (waited, after) := queue.leave pos
      (.told waited, after)
  | contains pos => (.told (queue.contains pos), queue)
  | size => (.count queue.size, queue)

/-- The answer of a list of waiting columns to a call, and the list after it. -/
def onList (waiting : List ColumnPos) :
    QueueCall → QueueAnswer × List ColumnPos
  | push pos =>
      if pos ∈ waiting then (.told false, waiting)
      else (.told true, waiting ++ [pos])
  | pop => (.turn waiting.head?, waiting.tail)
  | remove pos => (.told (pos ∈ waiting), waiting.filter (· ≠ pos))
  | contains pos => (.told (pos ∈ waiting), waiting)
  | size => (.count waiting.length, waiting)

section

variable {State : Type} (step : State → QueueCall → QueueAnswer × State)

/-- Calls that are made one after the other, each with its answer. -/
def transcript (state : State) :
    List QueueCall → List (QueueCall × QueueAnswer)
  | [] => []
  | call :: rest =>
      (call, (step state call).1) :: transcript (step state call).2 rest

/-- What calls leave that are made one after the other. -/
def after (state : State) (calls : List QueueCall) : State :=
  calls.foldl (fun state call => (step state call).2) state

end

/--
A queue answers as the list of its waiting columns does, and goes on as that
list does.
-/
theorem onQueue_eq_onList
    {queue : ColumnQueue}
    (ticketed : queue.Ticketed)
    (call : QueueCall) :
    (onQueue queue call).2.Ticketed ∧
      ((onQueue queue call).1, (onQueue queue call).2.toList) =
        onList queue.toList call := by
  cases call with
  | push pos =>
      have joined := ticketed.push pos
      have line := ticketed.toList_push pos
      have known := ticketed.mem_toList_iff pos
      simp only [onQueue, ColumnQueue.join, onList]
      by_cases waits : queue.contains pos = true
      · rw [if_pos waits, if_pos (known.2 waits)]
        exact ⟨ticketed, rfl⟩
      · rw [if_neg (mt known.1 waits)] at line
        rw [if_neg waits, if_neg (mt known.1 waits)]
        exact ⟨joined, congrArg _ line⟩
  | pop =>
      simp only [onQueue, onList]
      cases taken : queue.pop? with
      | none =>
          rw [ticketed.toList_of_pop?_eq_none taken]
          exact ⟨ticketed, rfl⟩
      | some first =>
          rw [ticketed.toList_of_pop?_eq_some taken]
          exact ⟨ticketed.pop? taken, rfl⟩
  | remove pos =>
      have waited : queue.tickets[pos.key]?.isSome =
          decide (pos ∈ queue.toList) := by
        rw [← ticketed.contains_eq, ColumnQueue.contains,
          Std.TreeMap.contains_eq_isSome_getElem?]
      simp only [onQueue, ColumnQueue.leave, onList, waited,
        queue.toList_remove, and_true]
      exact ticketed.remove pos
  | contains pos =>
      simp only [onQueue, onList, ticketed.contains_eq, and_true]
      exact ticketed
  | size =>
      simp only [onQueue, onList, ticketed.size_eq, and_true]
      exact ticketed

/--
Whatever is asked of a queue, its answers are those of the list of its waiting
columns.
-/
theorem transcript_eq_of_ticketed
    {queue : ColumnQueue}
    (ticketed : queue.Ticketed)
    (calls : List QueueCall) :
    transcript onQueue queue calls = transcript onList queue.toList calls ∧
      (after onQueue queue calls).Ticketed ∧
      (after onQueue queue calls).toList =
        after onList queue.toList calls := by
  induction calls generalizing queue with
  | nil => exact ⟨rfl, ticketed, rfl⟩
  | cons call rest ih =>
      obtain ⟨kept, same⟩ := onQueue_eq_onList ticketed call
      obtain ⟨answers, left, line⟩ := ih kept
      have answer : (onQueue queue call).1 = (onList queue.toList call).1 :=
        congrArg Prod.fst same
      have next : (onQueue queue call).2.toList =
          (onList queue.toList call).2 :=
        congrArg Prod.snd same
      rw [next] at answers line
      exact ⟨by rw [transcript, transcript, answer, answers], left, line⟩

/-! ## The list of waiting columns -/

/-- Taking columns until none is left gives all of them in turn. -/
theorem transcript_onList_replicate_pop (waiting : List ColumnPos) :
    transcript onList waiting (List.replicate (waiting.length + 1) .pop) =
      waiting.map (fun first => (.pop, .turn (some first))) ++
        [(.pop, .turn none)] := by
  induction waiting with
  | nil => rfl
  | cons first rest ih =>
      rw [List.length_cons, List.replicate_succ, transcript]
      exact congrArg _ ih

/-- A column that is dropped and joins again comes up once, after all others. -/
theorem transcript_onList_requeue
    (waiting : List ColumnPos)
    (pos : ColumnPos) :
    let later := waiting.filter (· ≠ pos) ++ [pos]
    transcript onList waiting
        (.remove pos :: .push pos :: List.replicate (later.length + 1) .pop) =
      (.remove pos, .told (pos ∈ waiting)) :: (.push pos, .told true) ::
        (later.map (fun first => (.pop, .turn (some first))) ++
          [(.pop, .turn none)]) := by
  intro later
  have absent : pos ∉ waiting.filter (· ≠ pos) := by simp
  have joined : onList (waiting.filter (· ≠ pos)) (.push pos) =
      (.told true, later) :=
    if_neg absent
  have dropped : onList waiting (.remove pos) =
      (.told (pos ∈ waiting), waiting.filter (· ≠ pos)) := rfl
  rw [transcript, dropped, transcript, joined,
    transcript_onList_replicate_pop]

theorem nodup_onList
    {waiting : List ColumnPos}
    (nodup : waiting.Nodup)
    (call : QueueCall) :
    (onList waiting call).2.Nodup := by
  cases call with
  | push pos =>
      simp only [onList]
      split
      · exact nodup
      · next absent =>
            exact List.nodup_append'.2
              ⟨nodup, List.nodup_singleton pos, by simpa⟩
  | pop => exact nodup.sublist (List.tail_sublist waiting)
  | remove pos => exact nodup.filter _
  | contains pos => exact nodup
  | size => exact nodup

/-- Whoever joins waits, until it is taken or dropped. -/
theorem balance_onList
    {waiting : List ColumnPos}
    (nodup : waiting.Nodup)
    (call : QueueCall)
    (pos : ColumnPos) :
    [(call, (onList waiting call).1)].count (.push pos, .told true) +
      waiting.count pos =
      [(call, (onList waiting call).1)].count (.pop, .turn (some pos)) +
        [(call, (onList waiting call).1)].count (.remove pos, .told true) +
        (onList waiting call).2.count pos := by
  cases call with
  | push other =>
      by_cases member : other ∈ waiting
      · simp [onList, member]
      · have joined : onList waiting (.push other) =
            (.told true, waiting ++ [other]) :=
          if_neg member
        rw [joined, List.count_append, List.count_singleton]
        by_cases same : other = pos
        · simp [same, Nat.add_comm]
        · simp [same]
  | pop =>
      cases waiting with
      | nil => simp [onList]
      | cons first rest => simp [onList, List.count_cons, Nat.add_comm]
  | remove other =>
      have kept : (onList waiting (.remove other)).2.count pos =
          if other = pos then 0 else waiting.count pos := by
        split
        · next same => exact List.count_eq_zero.2 (by simp [onList, same])
        · next apart => exact List.count_filter (by simpa using Ne.symm apart)
      rw [kept]
      by_cases same : other = pos
      · subst same
        rw [if_pos rfl, nodup.count]
        simp [onList, List.count_singleton]
      · simp [onList, same]
  | contains other => simp [onList]
  | size => simp [onList]

/--
During any calls, a column joined as often as it was taken or dropped, and once
more if it waits at the end and did not at the start.
-/
theorem balance_transcript_onList
    {waiting : List ColumnPos}
    (nodup : waiting.Nodup)
    (calls : List QueueCall)
    (pos : ColumnPos) :
    (transcript onList waiting calls).count (.push pos, .told true) +
      waiting.count pos =
      (transcript onList waiting calls).count (.pop, .turn (some pos)) +
        (transcript onList waiting calls).count (.remove pos, .told true) +
        (after onList waiting calls).count pos := by
  induction calls generalizing waiting with
  | nil => simp [transcript, after]
  | cons call rest ih =>
      have first := balance_onList nodup call pos
      have later := ih (nodup_onList nodup call)
      have split (exchange : QueueCall × QueueAnswer) :
          (transcript onList waiting (call :: rest)).count exchange =
            [(call, (onList waiting call).1)].count exchange +
              (transcript onList (onList waiting call).2 rest).count
                exchange := by
        rw [transcript, ← List.singleton_append, List.count_append]
      have left : after onList waiting (call :: rest) =
          after onList (onList waiting call).2 rest := rfl
      rw [split, split, split, left]
      omega

/--
Whatever is asked of a new queue, it answers as a list without repetitions in
which columns join at the end, are taken from the front, and are dropped from
wherever they stand.  A column that is dropped and joins again comes up at its
new place and once; every column that joined was taken or dropped once or still
waits; and a column is taken as the one that joined, for positions and keys
determine each other.
-/
theorem transcript_onQueue_eq_onList (calls : List QueueCall) :
    let queue := after onQueue .empty calls
    let waiting := after onList [] calls
    transcript onQueue .empty calls = transcript onList [] calls ∧
      queue.toList = waiting ∧ waiting.Nodup ∧
      (∀ pos, let later := waiting.filter (· ≠ pos) ++ [pos]
        transcript onQueue queue
            (.remove pos :: .push pos ::
              List.replicate (later.length + 1) .pop) =
          (.remove pos, .told (pos ∈ waiting)) :: (.push pos, .told true) ::
            (later.map (fun first => (.pop, .turn (some first))) ++
              [(.pop, .turn none)])) ∧
      (∀ pos, (transcript onQueue .empty calls).count
        (.push pos, .told true) =
        (transcript onQueue .empty calls).count (.pop, .turn (some pos)) +
          (transcript onQueue .empty calls).count (.remove pos, .told true) +
          if pos ∈ waiting then 1 else 0) ∧
      (∀ pos : ColumnPos, ColumnPos.ofKey pos.key = pos) ∧
      ∀ key : Int64, (ColumnPos.ofKey key).key = key := by
  intro queue waiting
  obtain ⟨answers, ticketed, line⟩ :=
    transcript_eq_of_ticketed ColumnQueue.ticketed_empty calls
  have line : queue.toList = waiting := line
  have nodup : waiting.Nodup := line ▸ ticketed.nodup_toList
  refine ⟨answers, line, nodup, ?_, ?_, ColumnPos.ofKey_key,
    ColumnPos.key_ofKey⟩
  · intro pos later
    rw [(transcript_eq_of_ticketed ticketed _).1, line]
    exact transcript_onList_requeue waiting pos
  · intro pos
    rw [answers, ← nodup.count]
    exact balance_transcript_onList List.nodup_nil calls pos

end QueueCall

end VoxelRelay
