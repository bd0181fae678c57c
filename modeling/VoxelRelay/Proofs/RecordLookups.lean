import Mathlib.Data.List.Induction
import VoxelRelay.Proofs.ColumnRecords

/-!
# What is found among the records of a column

The list of records behaves as a map.  What is found at a position depends only
on the last call that was made about it: the record that the call stored, or
nothing if it took the record out or if there was no such call.  Calls about
other positions and changes of sections do not matter, although taking a record
out moves another one to its place.

The main result is `entityAt?_eq_iff_lastWord`.
-/

namespace VoxelRelay

/-- A call that changes a column. -/
inductive ColumnCall where
  | put (entity : SourceEntity)
  | remove (pos : BlockPos)
  | modify (slot : Nat) (change : Section → Section)

namespace ColumnCall

/-- A call stores or takes out the record of a position. -/
def Concerns (pos : BlockPos) : ColumnCall → Prop
  | put entity => entity.position = pos
  | remove place => place = pos
  | modify _ _ => False

/-- What the last call about a position leaves there. -/
inductive LastWord (pos : BlockPos) :
    List ColumnCall → Option SourceEntity → Prop
  | none {calls : List ColumnCall}
      (silent : ∀ call ∈ calls, ¬ call.Concerns pos) :
      LastWord pos calls none
  | put {before later : List ColumnCall} {entity : SourceEntity}
      (here : entity.position = pos)
      (silent : ∀ call ∈ later, ¬ call.Concerns pos) :
      LastWord pos (before ++ put entity :: later) (some entity)
  | remove {before later : List ColumnCall}
      (silent : ∀ call ∈ later, ¬ call.Concerns pos) :
      LastWord pos (before ++ remove pos :: later) none

variable
    {pos : BlockPos}
    {calls : List ColumnCall}
    {call : ColumnCall}
    {found : Option SourceEntity}

/--
A call about another position does not take back what was said about this one.
-/
theorem LastWord.concat
    (word : LastWord pos calls found)
    (silent : ¬ call.Concerns pos) :
    LastWord pos (calls ++ [call]) found := by
  have extend {later : List ColumnCall}
    (before : ∀ call ∈ later, ¬ call.Concerns pos) :
      ∀ other ∈ later ++ [call], ¬ other.Concerns pos := by
    intro other member
    rcases List.mem_append.1 member with early | last
    · exact before other early
    · exact List.mem_singleton.1 last ▸ silent
  cases word with
  | none before => exact .none (extend before)
  | put here before =>
      rw [List.append_assoc]
      exact .put here (extend before)
  | remove before =>
      rw [List.append_assoc]
      exact .remove (extend before)

/-- There is a last word about every position. -/
theorem exists_lastWord
    (pos : BlockPos)
    (calls : List ColumnCall) :
    ∃ found, LastWord pos calls found := by
  induction calls using List.reverseRecOn with
  | nil => exact ⟨none, .none fun _ member => absurd member List.not_mem_nil⟩
  | append_singleton earlier call ih =>
      have nothing : ∀ call ∈ ([] : List ColumnCall), ¬ call.Concerns pos :=
        fun _ member => absurd member List.not_mem_nil
      obtain ⟨found, word⟩ := ih
      by_cases concerns : call.Concerns pos
      · cases call with
        | put entity => exact ⟨some entity, .put concerns nothing⟩
        | remove place =>
            obtain rfl : place = pos := concerns
            exact ⟨none, .remove nothing⟩
        | modify slot change => exact concerns.elim
      · exact ⟨found, word.concat concerns⟩

end ColumnCall

namespace Column

/-- A column after a call. -/
def call (column : Column) : ColumnCall → Column
  | .put entity => column.putEntity entity
  | .remove pos => (column.takeEntityAt pos).2
  | .modify slot change => column.modifySection slot change

/-- A column after calls. -/
def callAll
    (column : Column)
    (calls : List ColumnCall) : Column := calls.foldl call column

variable {column : Column}

/-! ## Taking out -/

/-- What is handed over is what was found. -/
theorem takeEntityAt_fst
    (column : Column)
    (pos : BlockPos) :
    (column.takeEntityAt pos).1 = column.entityAt? pos :=
  Array.find?_eq_bind_findIdx?_getElem?.symm

/-! ## Calls -/

theorem Distinct.call
    (distinct : column.Distinct)
    (call : ColumnCall) :
    (column.call call).Distinct := by
  cases call with
  | put entity => exact distinct.putEntity entity
  | remove pos => exact distinct.removeEntityAt pos
  | modify slot change => exact distinct.congr rfl

/-- A call about another position does not matter to what is found. -/
theorem entityAt?_call_of_silent
    (distinct : column.Distinct)
    {pos : BlockPos}
    {call : ColumnCall}
    (silent : ¬ call.Concerns pos) :
    (column.call call).entityAt? pos = column.entityAt? pos := by
  cases call with
  | put entity =>
      exact (entityAt?_putEntity distinct entity pos).trans (if_neg silent)
  | remove place =>
      exact (entityAt?_removeEntityAt distinct place pos).trans
        (if_neg silent)
  | modify slot change => rfl

theorem Distinct.callAll
    (distinct : column.Distinct)
    (calls : List ColumnCall) :
    (column.callAll calls).Distinct := by
  induction calls generalizing column with
  | nil => exact distinct
  | cons call rest ih => exact ih (distinct.call call)

theorem entityAt?_callAll_of_silent
    (distinct : column.Distinct)
    {pos : BlockPos}
    {calls : List ColumnCall}
    (silent : ∀ call ∈ calls, ¬ call.Concerns pos) :
    (column.callAll calls).entityAt? pos = column.entityAt? pos := by
  induction calls generalizing column with
  | nil => rfl
  | cons call rest ih =>
      rw [List.forall_mem_cons] at silent
      exact (ih (distinct.call call) silent.2).trans
        (entityAt?_call_of_silent distinct silent.1)

theorem callAll_append
    (column : Column)
    (before later : List ColumnCall) :
    column.callAll (before ++ later) =
      (column.callAll before).callAll later :=
  List.foldl_append

/--
In a column that was started without records, the last word about a position
counts.
-/
theorem entityAt?_callAll_of_lastWord
    (distinct : column.Distinct)
    {pos : BlockPos}
    (vacant : column.entityAt? pos = none)
    {calls : List ColumnCall}
    {found : Option SourceEntity}
    (word : ColumnCall.LastWord pos calls found) :
    (column.callAll calls).entityAt? pos = found := by
  cases word with
  | none silent =>
      exact (entityAt?_callAll_of_silent distinct silent).trans vacant
  | @put before later entity here silent =>
      have earlier := distinct.callAll before
      rw [callAll_append]
      exact (entityAt?_callAll_of_silent (earlier.call (.put entity))
        silent).trans
        ((entityAt?_putEntity earlier entity pos).trans (if_pos here))
  | @remove before later silent =>
      have earlier := distinct.callAll before
      rw [callAll_append]
      exact (entityAt?_callAll_of_silent (earlier.call (.remove pos))
        silent).trans
        ((entityAt?_removeEntityAt earlier pos pos).trans (if_pos rfl))

/--
No two records of a column have the same position, whatever calls were made
since it was started.  What is found at a position is the last word about it,
and this is what is handed over if it is taken out.
-/
theorem entityAt?_eq_iff_lastWord
    (pos : ColumnPos)
    (count declared : Nat)
    (calls : List ColumnCall) :
    let column := (create pos count declared).callAll calls
    column.Distinct ∧
      (∀ place found,
        column.entityAt? place = found ↔
          ColumnCall.LastWord place calls found) ∧
      ∀ place, (column.takeEntityAt place).1 = column.entityAt? place := by
  intro column
  have started := distinct_create pos count declared
  have told {place : BlockPos} {found : Option SourceEntity}
      (word : ColumnCall.LastWord place calls found) :
        column.entityAt? place = found :=
    entityAt?_callAll_of_lastWord started rfl word
  refine ⟨started.callAll calls, fun place found =>
    ⟨?_, told⟩, column.takeEntityAt_fst⟩
  rintro rfl
  obtain ⟨found, word⟩ := ColumnCall.exists_lastWord place calls
  rwa [told word]

end Column

end VoxelRelay
