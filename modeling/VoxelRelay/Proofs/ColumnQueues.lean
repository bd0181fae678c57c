import Mathlib.Data.Nat.Bitwise
import VoxelRelay.Store.Queue

/-!
# What waits in a queue of columns

A column position is recovered from its key, and a key from its position, so
that tickets are kept for columns.  With that a queue is known by which columns
wait in it: joining adds one column, dropping and taking remove one.
-/

namespace VoxelRelay

namespace ColumnPos

@[simp]
theorem ofKey_key (pos : ColumnPos) : ofKey pos.key = pos := by
  obtain ⟨x, z⟩ := pos
  unfold ofKey key
  congr 1
  · apply Int32.toBitVec_inj.1
    apply BitVec.eq_of_getLsbD_eq
    intro bit low
    have inside : bit < 64 := by omega
    simp [BitVec.getElem_signExtend, low, inside]
  · apply Int32.toBitVec_inj.1
    apply BitVec.eq_of_getLsbD_eq
    intro bit low
    have inside : bit < 64 := by omega
    have shifted : 32 + bit < 64 := by omega
    simp [BitVec.getElem_signExtend, BitVec.getElem_sshiftRight, low, inside,
      shifted]

@[simp]
theorem key_ofKey (key : Int64) : (ofKey key).key = key := by
  unfold ofKey ColumnPos.key
  apply Int64.toBitVec_inj.1
  apply BitVec.eq_of_getLsbD_eq
  intro bit inside
  by_cases low : bit < 32
  · simp [BitVec.getElem_signExtend, inside, low]
  · have high : bit - 32 < 32 := by omega
    have shifted : bit - 32 < 64 := by omega
    have back : 32 + (bit - 32) = bit := by omega
    simp [BitVec.getElem_signExtend, BitVec.getLsbD_signExtend,
      BitVec.getElem_sshiftRight, inside, low, high, shifted, back]

theorem key_inj {left right : ColumnPos} :
    left.key = right.key ↔ left = right := by
  constructor
  · intro equal
    rw [← ofKey_key left, equal, ofKey_key]
  · exact congrArg key

end ColumnPos

namespace ColumnQueue

theorem not_contains_empty (pos : ColumnPos) :
    ¬ empty.contains pos = true := by
  simp [contains, empty]

theorem contains_push_iff
    (queue : ColumnQueue)
    (pos other : ColumnPos) :
    (queue.push pos).contains other = true ↔
      other = pos ∨ queue.contains other = true := by
  unfold push
  split
  · next waits =>
      constructor
      · exact Or.inr
      · rintro (rfl | before)
        · exact waits
        · exact before
  · simp [contains, Std.TreeMap.contains_insert, ColumnPos.key_inj,
      @eq_comm _ other pos]

theorem contains_remove_iff
    (queue : ColumnQueue)
    (pos other : ColumnPos) :
    (queue.remove pos).contains other = true ↔
      other ≠ pos ∧ queue.contains other = true := by
  simp [contains, remove, Std.TreeMap.contains_erase, ColumnPos.key_inj,
    @eq_comm _ other pos]

/-- The first entry that was not withdrawn counts. -/
theorem isLive_of_skipWithdrawn
    {tickets : Std.TreeMap Int64 Nat}
    {entries rest : List (Int64 × Nat)}
    {entry : Int64 × Nat}
    (first : skipWithdrawn tickets entries = entry :: rest) :
    isLive tickets entry = true := by
  induction entries with
  | nil => cases first
  | cons head tail ih =>
      unfold skipWithdrawn at first
      split at first
      · next live =>
          cases first
          exact live
      · exact ih first

theorem contains_of_isLive
    {queue : ColumnQueue}
    {entry : Int64 × Nat}
    (live : isLive queue.tickets entry = true) :
    queue.contains (.ofKey entry.1) = true := by
  have ticket : queue.tickets[entry.1]? = some entry.2 := eq_of_beq live
  rw [contains, ColumnPos.key_ofKey, Std.TreeMap.contains_eq_isSome_getElem?,
    ticket]
  rfl

/--
A column that is taken from a queue waited in it, and all others still wait.
-/
theorem pop?_eq_some
    {queue rest : ColumnQueue}
    {pos : ColumnPos}
    (taken : queue.pop? = some (pos, rest)) :
    queue.contains pos = true ∧
      ∀ other, rest.contains other = true ↔
        other ≠ pos ∧ queue.contains other = true := by
  have erased :
      ∀ (line : Fifo (Int64 × Nat)) (key : Int64) (other : ColumnPos),
      ({ queue with line := line, tickets := queue.tickets.erase key } :
          ColumnQueue).contains other = true ↔
        other ≠ .ofKey key ∧ queue.contains other = true := by
    intro line key other
    have same : key = other.key ↔ other = .ofKey key := by
      rw [← ColumnPos.key_inj, ColumnPos.key_ofKey, eq_comm]
    simp [contains, Std.TreeMap.contains_erase, same]
  unfold pop? at taken
  split at taken
  · next entry later first =>
      cases taken
      exact ⟨contains_of_isLive (isLive_of_skipWithdrawn first), erased _ _⟩
  · split at taken
    · next entry later first =>
        cases taken
        exact ⟨contains_of_isLive (isLive_of_skipWithdrawn first), erased _ _⟩
    · cases taken

theorem not_isLive_of_skipWithdrawn_eq_nil
    {tickets : Std.TreeMap Int64 Nat}
    {entries : List (Int64 × Nat)}
    (none : skipWithdrawn tickets entries = []) :
    ∀ entry ∈ entries, ¬ isLive tickets entry = true := by
  induction entries with
  | nil => exact fun _ member => absurd member List.not_mem_nil
  | cons head tail ih =>
      unfold skipWithdrawn at none
      split at none
      · cases none
      · next withdrawn =>
          intro entry member
          rcases List.mem_cons.1 member with rfl | later
          · exact withdrawn
          · exact ih none entry later

/-- An entry that counts keeps its queue from running out. -/
theorem exists_pop?_of_isLive
    {queue : ColumnQueue}
    {entry : Int64 × Nat}
    (member : entry ∈ queue.line.toList)
    (live : isLive queue.tickets entry = true) :
    ∃ pos rest, queue.pop? = some (pos, rest) := by
  unfold pop?
  split
  · exact ⟨_, _, rfl⟩
  · next front =>
      split
      · exact ⟨_, _, rfl⟩
      · next back =>
          exfalso
          rcases List.mem_append.1 member with early | late
          · exact not_isLive_of_skipWithdrawn_eq_nil front entry early live
          · exact not_isLive_of_skipWithdrawn_eq_nil back entry late live

/-- A column that joins a queue in which nothing waits is taken from it next. -/
theorem exists_pop?_push
    {queue : ColumnQueue}
    (idle : ∀ other, ¬ queue.contains other = true)
    (pos : ColumnPos) :
    ∃ rest, (queue.push pos).pop? = some (pos, rest) ∧
      ∀ other, ¬ rest.contains other = true := by
  have joined : (pos.key, queue.next) ∈ (queue.push pos).line.toList ∧
      isLive (queue.push pos).tickets (pos.key, queue.next) = true := by
    rw [push, if_neg (idle pos)]
    simp [isLive]
  obtain ⟨first, rest, taken⟩ := exists_pop?_of_isLive joined.1 joined.2
  obtain ⟨waits, remaining⟩ := pop?_eq_some taken
  have only : ∀ other, (queue.push pos).contains other = true ↔
      other = pos := by
    intro other
    rw [contains_push_iff, or_iff_left (idle other)]
  obtain rfl := (only first).1 waits
  refine ⟨rest, taken, fun other waits => ?_⟩
  obtain ⟨apart, before⟩ := (remaining other).1 waits
  exact apart ((only other).1 before)

/-! ## Nobody is forgotten -/

theorem mem_skipWithdrawn
    {tickets : Std.TreeMap Int64 Nat}
    {entries : List (Int64 × Nat)}
    {entry : Int64 × Nat}
    (member : entry ∈ entries)
    (live : isLive tickets entry = true) :
    entry ∈ skipWithdrawn tickets entries := by
  induction entries with
  | nil => exact member
  | cons head tail ih =>
      rw [skipWithdrawn]
      split
      · exact member
      · next withdrawn =>
          rcases List.mem_cons.1 member with rfl | later
          · exact absurd live withdrawn
          · exact ih later

/-- Every column that waits stands in the line with its ticket. -/
def Lined (queue : ColumnQueue) : Prop :=
  ∀ key ticket, queue.tickets[key]? = some ticket →
    (key, ticket) ∈ queue.line.toList

theorem lined_empty : empty.Lined := by
  intro key ticket known
  simp [empty] at known

theorem Lined.push
    {queue : ColumnQueue}
    (lined : queue.Lined)
    (pos : ColumnPos) :
    (queue.push pos).Lined := by
  rw [ColumnQueue.push]
  split
  · exact lined
  · intro key ticket known
    simp only [Std.TreeMap.getElem?_insert] at known
    rw [Fifo.toList_push, List.mem_append]
    split at known
    · next same =>
        cases known
        rw [Std.LawfulEqCmp.eq_of_compare same]
        exact Or.inr List.mem_cons_self
    · exact Or.inl (lined key ticket known)

theorem Lined.remove
    {queue : ColumnQueue}
    (lined : queue.Lined)
    (pos : ColumnPos) :
    (queue.remove pos).Lined := by
  intro key ticket known
  simp only [ColumnQueue.remove, Std.TreeMap.getElem?_erase] at known
  split at known
  · cases known
  · exact lined key ticket known

theorem ticket_of_erase
    {tickets : Std.TreeMap Int64 Nat}
    {first key : Int64}
    {ticket : Nat}
    (known : (tickets.erase first)[key]? = some ticket) :
    key ≠ first ∧ tickets[key]? = some ticket := by
  rw [Std.TreeMap.getElem?_erase] at known
  split at known
  · cases known
  · next apart =>
      refine ⟨?_, known⟩
      rintro rfl
      exact apart Std.ReflCmp.compare_self

/--
What still has its ticket once an entry was taken stands behind that entry.
-/
theorem mem_of_skipWithdrawn_eq_cons
    {tickets : Std.TreeMap Int64 Nat}
    {entries later : List (Int64 × Nat)}
    {first : Int64 × Nat}
    (skipped : skipWithdrawn tickets entries = first :: later)
    {key : Int64}
    {ticket : Nat}
    (member : (key, ticket) ∈ entries)
    (known : (tickets.erase first.1)[key]? = some ticket) :
    (key, ticket) ∈ later := by
  obtain ⟨apart, before⟩ := ticket_of_erase known
  have kept :=
    mem_skipWithdrawn member (show isLive tickets (key, ticket) = true by
      simpa [isLive] using before)
  rw [skipped] at kept
  rcases List.mem_cons.1 kept with rfl | behind
  · exact absurd rfl apart
  · exact behind

theorem Lined.pop?
    {queue rest : ColumnQueue}
    {pos : ColumnPos}
    (lined : queue.Lined)
    (taken : queue.pop? = some (pos, rest)) :
    rest.Lined := by
  unfold ColumnQueue.pop? at taken
  split at taken
  · next first later skipped =>
      cases taken
      intro key ticket known
      rcases List.mem_append.1
        (lined key ticket (ticket_of_erase known).2) with early | late
      · exact List.mem_append_left _
          (mem_of_skipWithdrawn_eq_cons skipped early known)
      · exact List.mem_append_right _ late
  · next drained =>
      split at taken
      · next first later skipped =>
          cases taken
          intro key ticket known
          rcases List.mem_append.1
            (lined key ticket (ticket_of_erase known).2) with early | late
          · have live : isLive queue.tickets (key, ticket) = true := by
              simpa [isLive] using (ticket_of_erase known).2
            exact absurd live
              (not_isLive_of_skipWithdrawn_eq_nil drained _ early)
          · exact List.mem_append_left _
              (mem_of_skipWithdrawn_eq_cons skipped late known)
      · cases taken

/-- Nothing waits in a queue from which nothing can be taken. -/
theorem Lined.idle_of_pop?_eq_none
    {queue : ColumnQueue}
    (lined : queue.Lined)
    (none : queue.pop? = none)
    (pos : ColumnPos) :
    ¬ queue.contains pos = true := by
  intro waits
  rw [contains, Std.TreeMap.contains_eq_isSome_getElem?] at waits
  obtain ⟨ticket, known⟩ := Option.isSome_iff_exists.1 waits
  have live : isLive queue.tickets (pos.key, ticket) = true := by
    simpa [isLive] using known
  obtain ⟨first, rest, taken⟩ :=
    exists_pop?_of_isLive (lined pos.key ticket known) live
  rw [none] at taken
  cases taken

/-- The only column that waits is taken, and then none waits. -/
theorem Lined.exists_pop?_of_alone
    {queue : ColumnQueue}
    (lined : queue.Lined)
    {pos : ColumnPos}
    (alone : ∀ other, queue.contains other = true ↔ other = pos) :
    ∃ rest, queue.pop? = some (pos, rest) ∧
      ∀ other, ¬ rest.contains other = true := by
  cases taken : queue.pop? with
  | none =>
      exact absurd ((alone pos).2 rfl) (lined.idle_of_pop?_eq_none taken pos)
  | some turn =>
      obtain ⟨first, rest⟩ := turn
      obtain ⟨waits, remaining⟩ := pop?_eq_some taken
      obtain rfl := (alone first).1 waits
      refine ⟨rest, rfl, fun other still => ?_⟩
      obtain ⟨apart, before⟩ := (remaining other).1 still
      exact apart ((alone other).1 before)

end ColumnQueue

end VoxelRelay
