import Mathlib.Data.List.Induction
import Mathlib.Tactic.ByContra
import VoxelRelay.Conversion.Biomes

/-!
# Majorities

Votes are counted one after the other, and the leader is replaced only by one
with more votes than it has.  So at any time the leader has the most of the
votes cast so far, and of all that have as many it is the one that had them
first: `wins_majority`.  There is only one such, `Wins.unique`, which makes the
count an exact answer.
-/

namespace VoxelRelay

/--
An identifier has the most votes, and has them before any other has as many.
-/
structure Wins (votes : List UInt32) (id : UInt32) : Prop where
  most : ∀ other, votes.count other ≤ votes.count id
  first : ∃ before after, votes = before ++ id :: after ∧
    before.count id + 1 = votes.count id ∧
    ∀ other, other ≠ id → before.count other < votes.count id

namespace Wins

variable {votes : List UInt32} {id other : UInt32}

theorem mem (wins : Wins votes id) : id ∈ votes := by
  obtain ⟨before, after, split, -⟩ := wins.first
  rw [split]
  exact List.mem_append_right before List.mem_cons_self

/--
Of two winners neither can have reached the number of its votes after the
other.
-/
theorem length_le
    {earlier earlierRest later laterRest : List UInt32}
    (same : earlier ++ id :: earlierRest = later ++ other :: laterRest)
    (few : later.count id ≤ earlier.count id) :
    later.length ≤ earlier.length := by
  by_contra short
  have start : earlier ++ [id] <+: later := by
    have whole : earlier ++ [id] <+: later ++ other :: laterRest :=
      ⟨earlierRest, by simpa using same⟩
    refine List.prefix_of_prefix_length_le whole (List.prefix_append _ _) ?_
    rw [List.length_append, List.length_singleton]
    exact Nat.lt_of_not_ge short
  have more := start.sublist.count_le id
  rw [List.count_append, List.count_singleton_self] at more
  omega

/-- There is one winner at most. -/
theorem unique
    (wins : Wins votes id)
    (others : Wins votes other) :
    id = other := by
  by_contra apart
  have equal : votes.count id = votes.count other :=
    Nat.le_antisymm (others.most id) (wins.most other)
  obtain ⟨before, after, split, reached, fewer⟩ := wins.first
  obtain ⟨before', after', split', reached', fewer'⟩ := others.first
  have same : before ++ id :: after = before' ++ other :: after' :=
    split.symm.trans split'
  have lengths : before.length = before'.length := by
    have few := fewer other (Ne.symm apart)
    have few' := fewer' id apart
    exact Nat.le_antisymm (length_le same.symm (by omega))
      (length_le same (by omega))
  exact apart (List.cons.inj (List.append_inj_right same lengths)).1

end Wins

/-! ## Counting -/

/-- A count under way has the votes cast so far, and their leader. -/
structure Tally.Counts (tally : Tally) (votes : List UInt32) : Prop where
  cast_eq : tally.cast = votes.reverse
  votes_eq : tally.votes = votes.count tally.best
  most : ∀ other, votes.count other ≤ tally.votes
  wins : votes ≠ [] → Wins votes tally.best

theorem Tally.counts_empty : Counts ⟨[], 0, 0⟩ [] where
  cast_eq := rfl
  votes_eq := rfl
  most := fun _ => Nat.le_refl _
  wins := fun some => absurd rfl some

/-- One more vote. -/
theorem Tally.Counts.add
    {tally : Tally}
    {votes : List UInt32}
    (counts : tally.Counts votes)
    (id : UInt32) :
    (tally.add id).Counts (votes ++ [id]) := by
  have cast : id :: tally.cast = (votes ++ [id]).reverse := by
    rw [counts.cast_eq, List.reverse_append, List.reverse_singleton,
      List.singleton_append]
  have own : (votes ++ [id]).count id = votes.count id + 1 := by
    rw [List.count_append, List.count_singleton_self]
  have others {other : UInt32} (apart : other ≠ id) :
      (votes ++ [id]).count other = votes.count other := by
    rw [List.count_append, List.count_singleton, beq_false_of_ne apart.symm]
    rfl
  have number : (id :: tally.cast).count id = votes.count id + 1 := by
    rw [cast, List.count_reverse, own]
  rw [Tally.add, number]
  split
  · next more =>
      have most (other : UInt32) :
          (votes ++ [id]).count other ≤ votes.count id + 1 := by
        rcases eq_or_ne other id with rfl | apart
        · exact Nat.le_of_eq own
        · rw [others apart]
          exact Nat.le_trans (counts.most other) (Nat.le_of_lt more)
      refine ⟨cast, own.symm, most, fun _ =>
        ⟨fun other => own ▸ most other, votes, [], rfl,
          own.symm, fun other _ => ?_⟩⟩
      rw [own]
      exact Nat.lt_of_le_of_lt (counts.most other) more
  · next behind =>
      have apart : tally.best ≠ id := by
        rintro rfl
        exact behind (counts.votes_eq ▸ Nat.lt_succ_self _)
      have most (other : UInt32) :
          (votes ++ [id]).count other ≤ tally.votes := by
        rcases eq_or_ne other id with rfl | away
        · exact Nat.le_trans (Nat.le_of_eq own) (Nat.not_lt.1 behind)
        · rw [others away]
          exact counts.most other
      have kept : (votes ++ [id]).count tally.best = tally.votes :=
        (others apart).trans counts.votes_eq.symm
      refine ⟨cast, kept.symm, most, fun _ =>
        ⟨fun other => kept ▸ most other, ?_⟩⟩
      have some : votes ≠ [] := by
        rintro rfl
        exact behind (by simp [counts.votes_eq])
      obtain ⟨before, after, split, reached, fewer⟩ :=
        (counts.wins some).first
      refine ⟨before, after ++ [id], by rw [split]; simp, ?_, ?_⟩
      · rw [kept, counts.votes_eq, reached]
      · intro other away
        rw [kept, counts.votes_eq]
        exact fewer other away

theorem Tally.counts_foldl (votes : List UInt32) :
    (votes.foldl Tally.add ⟨[], 0, 0⟩).Counts votes := by
  induction votes using List.reverseRecOn with
  | nil => exact counts_empty
  | append_singleton votes id ih =>
      rw [List.foldl_append]
      exact ih.add id

/-- Of some votes the majority is the winner. -/
theorem wins_majority
    {votes : List UInt32}
    (some : votes ≠ []) :
    Wins votes (majority votes) :=
  (Tally.counts_foldl votes).wins some

/-- A vote that is unanimous is won by what everyone voted for. -/
theorem majority_of_unanimous
    {votes : List UInt32}
    {id : UInt32}
    (some : votes ≠ [])
    (all : ∀ vote ∈ votes, vote = id) :
    majority votes = id :=
  all _ (wins_majority some).mem

/-- Of two biomes with two votes each the one that had them first wins. -/
example : majority [7, 8, 8, 7] = 8 := by decide

end VoxelRelay
