import Mathlib.Data.List.Nodup
import VoxelRelay.Proofs.BlockUpdates

/-!
# The records of a column

A column keeps the records of its block entities in a list in which every
position occurs at most once, so that the list is a map from positions to
records.  Storing a record takes out the one at its position and puts the new
one at the end, and taking a record out moves the last one into the gap: the
order changes with every step, but what is found at a position is what was
stored there last.
-/

namespace VoxelRelay

/--
Moving the last element into a place takes out what was there, up to order.
-/
theorem perm_cons_dropLast_set
    {α : Type}
    {elements : List α}
    {place : Nat}
    (inside : place < elements.length)
    {last : α}
    (ends : elements.getLast? = some last) :
    (elements[place] :: (elements.set place last).dropLast).Perm
      elements := by
  obtain ⟨init, rfl⟩ := List.getLast?_eq_some_iff.1 ends
  by_cases early : place < init.length
  · obtain ⟨front, back, same, -, written⟩ :=
      @List.exists_of_set _ place last init early
    rw [List.set_append_left place last early, List.dropLast_concat,
      List.getElem_append_left early, written]
    calc
      (init[place] :: (front ++ last :: back)).Perm
          (init[place] :: last :: (front ++ back)) :=
        List.perm_middle.cons _
      _ |>.Perm (last :: init[place] :: (front ++ back)) :=
        List.Perm.swap _ _ _
      _ |>.Perm (last :: (front ++ init[place] :: back)) :=
        List.perm_middle.symm.cons _
      _ |>.Perm (init ++ [last]) := by
          rw [← same]
          exact (List.perm_append_singleton last init).symm
  · obtain rfl : place = init.length := by
      rw [List.length_append, List.length_singleton] at inside
      omega
    rw [List.set_append_right init.length last (Nat.le_refl _), Nat.sub_self]
    simpa using (List.perm_append_singleton last init).symm

namespace Column

/-- No two records of a column have the same position. -/
def Distinct (column : Column) : Prop :=
  (column.entities.toList.map SourceEntity.position).Nodup

/-- Two columns hold the same records. -/
theorem Distinct.congr
    {column other : Column}
    (distinct : column.Distinct)
    (same : other.entities = column.entities) :
    other.Distinct := by
  rw [Distinct, same]
  exact distinct

theorem distinct_create
    (pos : ColumnPos)
    (count declared : Nat) :
    (create pos count declared).Distinct :=
  List.nodup_nil

variable {column : Column}

theorem position_of_entityAt?
    {pos : BlockPos}
    {record : SourceEntity}
    (found : column.entityAt? pos = some record) :
    record.position = pos :=
  eq_of_beq (Array.find?_eq_some_iff_append.1 found).1

/-- The record at a position is taken out, and the others stay. -/
theorem perm_cons_removeEntityAt
    {pos : BlockPos}
    {record : SourceEntity}
    (found : column.entityAt? pos = some record) :
    (record :: (column.removeEntityAt pos).entities.toList).Perm
      column.entities.toList := by
  obtain ⟨here, place, inside, rfl, first⟩ :=
    Array.find?_eq_some_iff_getElem.1 found
  have index : column.entities.findIdx? (·.position == pos) = some place :=
    Array.findIdx?_eq_some_iff_getElem.2
      ⟨inside, here, fun earlier before =>
        by simpa using first earlier before⟩
  have nonempty : column.entities.size - 1 < column.entities.size := by omega
  have last : column.entities.back? =
      some column.entities[column.entities.size - 1] :=
    Array.back?_eq_getElem?.trans (Array.getElem?_eq_getElem nonempty)
  have ends : column.entities.toList.getLast? =
      some column.entities[column.entities.size - 1] := by
    rw [← last, Array.getLast?_toList]
  rw [removeEntityAt, index, last]
  simp only [Array.toList_pop, Array.toList_setIfInBounds]
  exact @perm_cons_dropLast_set _ column.entities.toList _ inside _ ends

theorem entityAt?_eq_some_iff
    (distinct : column.Distinct)
    {pos : BlockPos}
    {record : SourceEntity} :
    column.entityAt? pos = some record ↔
      record ∈ column.entities ∧ record.position = pos := by
  constructor
  · exact fun found =>
      ⟨Array.mem_of_find?_eq_some found, position_of_entityAt? found⟩
  · rintro ⟨member, rfl⟩
    cases found : column.entityAt? record.position with
    | none =>
        exact absurd (beq_self_eq_true _)
          (Array.find?_eq_none.1 found record member)
    | some other =>
        have stored : other ∈ column.entities :=
          Array.mem_of_find?_eq_some found
        rw [List.inj_on_of_nodup_map distinct (Array.mem_toList_iff.2 stored)
          (Array.mem_toList_iff.2 member) (position_of_entityAt? found)]

/-! ## Taking out and storing -/

section

variable (distinct : column.Distinct)
include distinct

theorem Distinct.removeEntityAt (pos : BlockPos) :
    (column.removeEntityAt pos).Distinct := by
  cases found : column.entityAt? pos with
  | none =>
      rw [removeEntityAt_of_absent found]
      exact distinct
  | some record =>
      have split := (perm_cons_removeEntityAt found).map SourceEntity.position
      exact (List.nodup_cons.1 (split.nodup_iff.2 distinct)).2

theorem mem_entities_removeEntityAt_iff
    {pos : BlockPos}
    {record : SourceEntity} :
    record ∈ (column.removeEntityAt pos).entities ↔
      record ∈ column.entities ∧ record.position ≠ pos := by
  cases found : column.entityAt? pos with
  | none =>
      rw [removeEntityAt_of_absent found, iff_self_and]
      rintro member rfl
      exact absurd (beq_self_eq_true _)
        (Array.find?_eq_none.1 found record member)
  | some removed =>
      have here := position_of_entityAt? found
      have split := perm_cons_removeEntityAt found
      have fresh : pos ∉
          (column.removeEntityAt pos).entities.toList.map
            SourceEntity.position := by
        have first := (split.map SourceEntity.position).nodup_iff.2 distinct
        rw [List.map_cons, here] at first
        exact (List.nodup_cons.1 first).1
      rw [← Array.mem_toList_iff, ← Array.mem_toList_iff, ← split.mem_iff,
        List.mem_cons]
      constructor
      · intro member
        refine ⟨Or.inr member, ?_⟩
        rintro rfl
        exact fresh (List.mem_map_of_mem member)
      · rintro ⟨rfl | member, apart⟩
        · exact absurd here apart
        · exact member

/--
Nothing is found at a position whose record was taken out, and the others
stay.
-/
theorem entityAt?_removeEntityAt (place pos : BlockPos) :
    (column.removeEntityAt place).entityAt? pos =
      if place = pos then none else column.entityAt? pos := by
  apply Option.ext
  intro record
  rw [entityAt?_eq_some_iff (distinct.removeEntityAt place),
    mem_entities_removeEntityAt_iff distinct]
  split
  · next here =>
      subst here
      simp only [reduceCtorEq, iff_false]
      exact fun ⟨⟨_, apart⟩, there⟩ => apart there
  · next elsewhere =>
      rw [entityAt?_eq_some_iff distinct]
      constructor
      · exact fun ⟨⟨member, _⟩, there⟩ => ⟨member, there⟩
      · rintro ⟨member, rfl⟩
        exact ⟨⟨member, Ne.symm elsewhere⟩, rfl⟩

theorem mem_entities_putEntity_iff {entity record : SourceEntity} :
    record ∈ (column.putEntity entity).entities ↔
      record = entity ∨ record ∈ column.entities ∧
        record.position ≠ entity.position := by
  rw [putEntity, Array.mem_push, mem_entities_removeEntityAt_iff distinct,
    or_comm]

theorem Distinct.putEntity (entity : SourceEntity) :
    (column.putEntity entity).Distinct := by
  have cleared := distinct.removeEntityAt entity.position
  rw [Distinct, Column.putEntity, Array.toList_push, List.map_append,
    List.map_singleton, List.nodup_append]
  refine ⟨cleared, List.nodup_singleton _, ?_⟩
  intro pos stored other only same
  obtain ⟨record, member, rfl⟩ := List.mem_map.1 stored
  have apart :=
    ((mem_entities_removeEntityAt_iff distinct).1
      (Array.mem_toList_iff.1 member)).2
  exact apart (same.trans (List.mem_singleton.1 only))

/-- At a position one finds the record that was stored there last. -/
theorem entityAt?_putEntity
    (entity : SourceEntity)
    (pos : BlockPos) :
    (column.putEntity entity).entityAt? pos =
      if entity.position = pos then some entity
      else column.entityAt? pos := by
  apply Option.ext
  intro record
  rw [entityAt?_eq_some_iff (distinct.putEntity entity),
    mem_entities_putEntity_iff distinct]
  split
  · next here =>
      rw [Option.some.injEq]
      constructor
      · rintro ⟨rfl | ⟨-, apart⟩, there⟩
        · rfl
        · exact absurd (there.trans here.symm) apart
      · rintro rfl
        exact ⟨Or.inl rfl, here⟩
  · next elsewhere =>
      rw [entityAt?_eq_some_iff distinct]
      constructor
      · rintro ⟨rfl | ⟨member, -⟩, there⟩
        · exact absurd there elsewhere
        · exact ⟨member, there⟩
      · rintro ⟨member, rfl⟩
        exact ⟨Or.inr ⟨member, Ne.symm elsewhere⟩, rfl⟩

end

theorem Distinct.foldl_putEntity
    (entities : List SourceEntity)
    {column : Column}
    (distinct : column.Distinct) :
    (entities.foldl Column.putEntity column).Distinct := by
  induction entities generalizing column with
  | nil => exact distinct
  | cons entity rest ih => exact ih (distinct.putEntity entity)

/-- Records of other positions do not matter to what is found at a position. -/
theorem entityAt?_foldl_putEntity_of_ne
    {entities : List SourceEntity}
    {column : Column}
    (distinct : column.Distinct)
    {pos : BlockPos}
    (apart : ∀ entity ∈ entities, entity.position ≠ pos) :
    (entities.foldl putEntity column).entityAt? pos =
      column.entityAt? pos := by
  induction entities generalizing column with
  | nil => rfl
  | cons entity rest ih =>
      rw [List.foldl_cons, ih (distinct.putEntity entity)
        (fun other member => apart other (List.mem_cons_of_mem _ member)),
        entityAt?_putEntity distinct,
        if_neg (apart entity List.mem_cons_self)]

/--
Of several records stored one after the other, the last one for a position is
found there.
-/
theorem entityAt?_foldl_putEntity
    {column : Column}
    (distinct : column.Distinct)
    (before : List SourceEntity)
    (entity : SourceEntity)
    {later : List SourceEntity}
    (last : ∀ other ∈ later, other.position ≠ entity.position) :
    ((before ++ entity :: later).foldl putEntity column).entityAt?
      entity.position =
      some entity := by
  have earlier := distinct.foldl_putEntity before
  rw [List.foldl_append, List.foldl_cons,
    entityAt?_foldl_putEntity_of_ne (earlier.putEntity entity) last,
    entityAt?_putEntity earlier, if_pos rfl]

end Column

end VoxelRelay
