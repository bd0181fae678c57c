import Mathlib.Data.List.Nodup
import VoxelRelay.Proofs.CellWrites

/-!
# What the visit of a section's cells finds

Which block entity a cell gets, and which state, depends on its block and its
position alone: `entityFor?` and `stateFor` say so without a table.  The visit
reads the owners of block entities through the table that the section had at
the start, by the indices of the palette that it writes states into.  This
goes well as long as the cells that are still to come keep the indices that
they had at the start, and it does as long as the table has room for every
state that a record may put in place of a mapped one: then no table is ever
compacted, and each write appends at most one entry.
-/

namespace VoxelRelay

open Palette

namespace MappingTable

/-- The states that are shown for blocks that have a record. -/
def overrides (table : MappingTable) : List UInt32 :=
  table.entityStates.toList.map (·.2)

theorem length_overrides (table : MappingTable) :
    table.overrides.length = table.entityStates.size := by
  rw [overrides, List.length_map, Std.HashMap.length_toList]

theorem mem_overrides_of_convertEntity?
    {table : MappingTable}
    {source : UInt32}
    {record : SourceEntity}
    {entity : TargetEntity}
    {state : UInt32}
    (converted : table.convertEntity? source record = some entity)
    (override : entity.stateOverride = some state) :
    state ∈ table.overrides := by
  simp only [convertEntity?, Option.bind_eq_bind, Option.bind_eq_some_iff,
    Option.pure_def, Option.some.injEq] at converted
  obtain ⟨tag, -, typeId, -, rfl⟩ := converted
  exact List.mem_map.2
    ⟨(tag, state), Std.HashMap.mem_toList_iff_getElem?_eq_some.2 override,
      rfl⟩

end MappingTable

/-! ## Cell by cell -/

namespace Converter

variable (converter : Converter) (column : Column)

/--
The block entity that a source block at a position gets, with or without data
to send.
-/
def entityFor? (pos : BlockPos) (source : UInt32) : Option TargetEntity :=
  (converter.ownerTag? source).bind fun tag =>
    match column.entityAt? pos with
    | some record => converter.entities.convertEntity? source record
    | none => (converter.table.entityType? tag).map (.empty pos)

/-- The state that a source block at a position gets, waterlogging apart. -/
def stateFor (pos : BlockPos) (source : UInt32) : UInt32 :=
  ((converter.entityFor? column pos source).bind (·.stateOverride)).getD
    (converter.table.destinationOrAir source)

variable {converter column}

theorem mem_overrides_of_entityFor?
    {pos : BlockPos}
    {source : UInt32}
    {entity : TargetEntity}
    {state : UInt32}
    (found : converter.entityFor? column pos source = some entity)
    (override : entity.stateOverride = some state) :
    state ∈ converter.entities.overrides := by
  unfold entityFor? at found
  obtain ⟨tag, -, shown⟩ := Option.bind_eq_some_iff.1 found
  cases known : column.entityAt? pos with
  | some record =>
      rw [known] at shown
      exact MappingTable.mem_overrides_of_convertEntity? shown override
  | none =>
      rw [known] at shown
      obtain ⟨typeId, -, rfl⟩ := Option.map_eq_some_iff.1 shown
      cases override

/--
The table of a primary layer can be indexed, and it has room for every state
that a record may put in place of a mapped one.
-/
structure HasRoom (converter : Converter) (primary : Palette) : Prop where
  ids_le : primary.ids.size ≤ 2 ^ 16
  overrides_le : 0 < converter.entities.entityStates.size →
    primary.ids.size + converter.entities.entityStates.size ≤ primary.size

theorem HasRoom.writable
    {primary : Palette}
    (room : converter.HasRoom primary)
    (cube : primary.SectionCube) :
    primary.Writable :=
  cube.writable room.ids_le

end Converter

/-! ## One step of the visit -/

namespace CellVisit

/-- Counts a cell that holds something other than air. -/
def counted (visit : CellVisit) (state : UInt32) : CellVisit :=
  if state = air then visit else { visit with nonAir := visit.nonAir + 1 }

/-- Counts a cell by the table entry that was found for it. -/
def look (visit : CellVisit) : Option UInt32 → CellVisit
  | some state => visit.counted state
  | none => visit

/-- Gives a cell its block entity, if it has one. -/
def attach
    (visit : CellVisit)
    (place : Place) : Option TargetEntity → CellVisit
  | none => visit
  | some entity =>
      { visit with
        blocks :=
          match entity.stateOverride with
          | some state => visit.blocks.write place state
          | none => visit.blocks
        entities :=
          if entity.hasData then visit.entities.push entity
          else visit.entities }

@[simp]
theorem blocks_counted
    (visit : CellVisit)
    (state : UInt32) :
    (visit.counted state).blocks = visit.blocks := by
  unfold counted
  split <;> rfl

@[simp]
theorem entities_counted
    (visit : CellVisit)
    (state : UInt32) :
    (visit.counted state).entities = visit.entities := by
  unfold counted
  split <;> rfl

theorem nonAir_counted
    (visit : CellVisit)
    (state : UInt32) :
    (visit.counted state).nonAir = visit.nonAir + if state =
      air then 0 else 1 := by
  unfold counted
  split <;> rfl

@[simp]
theorem nonAir_attach
    (visit : CellVisit)
    (place : Place)
    (entity : Option TargetEntity) :
    (visit.attach place entity).nonAir = visit.nonAir := by
  cases entity <;> rfl

theorem entities_attach
    (visit : CellVisit)
    (place : Place)
    (entity : Option TargetEntity) :
    (visit.attach place entity).entities.toList =
      visit.entities.toList ++ (entity.filter (·.hasData)).toList := by
  cases entity with
  | none => simp [attach]
  | some entity =>
      by_cases sent : entity.hasData = true
      · simp [attach, Option.filter, sent]
      · simp [attach, Option.filter, sent]

theorem blocks_attach
    (visit : CellVisit)
    (place : Place)
    (entity : Option TargetEntity) :
    (visit.attach place entity).blocks =
      match entity.bind (·.stateOverride) with
      | some state => visit.blocks.write place state
      | none => visit.blocks := by
  cases entity <;> rfl

end CellVisit

namespace VisitPlan

/-- The block entity that a cell gets. -/
def entity? (plan : VisitPlan) (place : Place) : Option TargetEntity :=
  plan.converter.entityFor? plan.column
    (plan.position place.1 place.2.1 place.2.2) (plan.primary.read place)

/-- The mapped state of a cell. -/
def mapped (plan : VisitPlan) (place : Place) : UInt32 :=
  plan.converter.table.destinationOrAir (plan.primary.read place)

/-- The state that a cell gets, waterlogging apart. -/
def state (plan : VisitPlan) (place : Place) : UInt32 :=
  plan.converter.stateFor plan.column
    (plan.position place.1 place.2.1 place.2.2) (plan.primary.read place)

theorem state_eq
    (plan : VisitPlan)
    (place : Place) :
    plan.state place =
      ((plan.entity? place).bind (·.stateOverride)).getD
        (plan.mapped place) :=
  rfl

/-- The primary layer with its table mapped, as the visit begins. -/
def start (plan : VisitPlan) : Palette :=
  plan.primary.mapIds plan.converter.table.destinationOrAir

theorem addEntity_eq
    (plan : VisitPlan)
    (visit : CellVisit)
    {tag : String}
    {place : Place}
    (owner : plan.converter.ownerTag? (plan.primary.read place) = some tag) :
    plan.addEntity visit tag place.1 place.2.1 place.2.2 =
      visit.attach place (plan.entity? place) := by
  have block : plan.primary.idAt place.1 place.2.1 place.2.2 =
      plan.primary.read place := rfl
  rw [entity?, Converter.entityFor?, owner, Option.bind_some, addEntity,
    block]
  cases plan.column.entityAt? (plan.position place.1 place.2.1 place.2.2) with
  | some record =>
      dsimp only
      cases plan.converter.entities.convertEntity? (plan.primary.read place)
        record <;> rfl
  | none =>
      dsimp only
      cases plan.converter.table.entityType? tag <;> rfl

theorem visit_unfold
    (plan : VisitPlan)
    (visit : CellVisit)
    (place : Place) :
    plan.visit visit place =
      match plan.owners[(visit.blocks.indices.get
          (visit.blocks.number place)).toNat]? with
      | some (some tag) =>
          plan.addEntity
            (visit.look (visit.blocks.id? (visit.blocks.indices.get
              (visit.blocks.number place)).toNat)) tag place.1
              place.2.1 place.2.2
      | _ =>
          visit.look (visit.blocks.id? (visit.blocks.indices.get
            (visit.blocks.number place)).toNat) :=
  rfl

/-- A plan as it is made for a section. -/
structure Sound (plan : VisitPlan) : Prop where
  cube : plan.primary.SectionCube
  owners_eq : plan.owners = plan.primary.ids.map plan.converter.ownerTag?

/--
A cell has the index that it had at the start, in a table that begins as it
did.
-/
structure Traces
    (plan : VisitPlan)
    (blocks : Palette)
    (place : Place) : Prop where
  index_eq : blocks.indices.get (blocks.number place) =
    plan.primary.indices.get (plan.primary.number place)
  start_prefix : plan.start.ids.toList <+: blocks.ids.toList

theorem traces_start
    (plan : VisitPlan)
    (place : Place) :
    plan.Traces plan.start place :=
  ⟨rfl, List.prefix_rfl⟩

namespace Traces

variable {plan : VisitPlan} {blocks : Palette} {place : Place}

/-- The table entry that such a cell refers to is its mapped state. -/
theorem id?_index
    (traces : plan.Traces blocks place)
    (sound : plan.Sound)
    (inside : plan.primary.Inside place) :
    blocks.id? (blocks.indices.get (blocks.number place)).toNat =
      some (plan.mapped place) := by
  have bound :=
    sound.cube.index_lt _ (sound.cube.toWellFormed.number_lt inside)
  obtain ⟨added, listed⟩ := traces.start_prefix
  rw [traces.index_eq, id?, ← Array.getElem?_toList, ← listed,
    List.getElem?_append_left (by simpa [start, mapIds] using bound), start,
    mapIds, mapped, Palette.read, idAt, idAtCell, ← number]
  simp [Array.getD_eq_getD_getElem?, bound]

/-- The owner that the visit looks up for such a cell is that of its block. -/
theorem owners_index
    (traces : plan.Traces blocks place)
    (sound : plan.Sound)
    (inside : plan.primary.Inside place) :
    plan.owners[(blocks.indices.get (blocks.number place)).toNat]? =
      some (plan.converter.ownerTag? (plan.primary.read place)) := by
  have bound :=
    sound.cube.index_lt _ (sound.cube.toWellFormed.number_lt inside)
  rw [traces.index_eq, sound.owners_eq, Array.getElem?_map, Palette.read,
    idAt, idAtCell, ← number]
  simp [Array.getD_eq_getD_getElem?, bound]

/-- What happens at such a cell depends on its block and its position alone. -/
theorem visit_eq
    {visit : CellVisit}
    (traces : plan.Traces visit.blocks place)
    (sound : plan.Sound)
    (inside : plan.primary.Inside place) :
    plan.visit visit place =
      (visit.counted (plan.mapped place)).attach place
        (plan.entity? place) := by
  rw [plan.visit_unfold, traces.id?_index sound inside,
    traces.owners_index sound inside]
  cases owner : plan.converter.ownerTag? (plan.primary.read place) with
  | some tag => exact plan.addEntity_eq _ owner
  | none =>
      rw [entity?, Converter.entityFor?, owner]
      rfl

end Traces

/--
The waiting cells have the indices that they had at the start, and states were
only added at the end of the table, none of them twice.
-/
structure Aligned
    (plan : VisitPlan)
    (blocks : Palette)
    (waiting : List Place) : Prop where
  writable : blocks.Writable
  edgeBits_eq : blocks.edgeBits = plan.primary.edgeBits
  index_eq : ∀ place ∈ waiting, blocks.indices.get (blocks.number place) =
    plan.primary.indices.get (plan.primary.number place)
  table_eq : ∃ added : List UInt32, added.Nodup ∧
    added ⊆ plan.converter.entities.overrides ∧
    blocks.ids.toList = plan.start.ids.toList ++ added

theorem aligned_start
    {plan : VisitPlan}
    (writable : plan.primary.Writable)
    (waiting : List Place) :
    plan.Aligned plan.start waiting where
  writable := (writable.rewritten_mapIds _).writable
  edgeBits_eq := rfl
  index_eq := fun _ _ => rfl
  table_eq :=
    ⟨[], List.nodup_nil, List.nil_subset _, (List.append_nil _).symm⟩

namespace Aligned

variable
    {plan : VisitPlan}
    {blocks : Palette}
    {place : Place}
    {waiting : List Place}

theorem inside_iff (aligned : plan.Aligned blocks waiting) :
    blocks.Inside place ↔ plan.primary.Inside place :=
  inside_congr aligned.edgeBits_eq

theorem size_eq
    (aligned : plan.Aligned blocks waiting)
    (sound : plan.Sound) :
    blocks.size = plan.primary.size := by
  rw [aligned.writable.size_eq, sound.cube.size_eq, aligned.edgeBits_eq]

/-- A waiting cell can be traced to the start. -/
theorem traces (aligned : plan.Aligned blocks (place :: waiting)) :
    plan.Traces blocks place := by
  obtain ⟨added, -, -, listed⟩ := aligned.table_eq
  exact ⟨aligned.index_eq place List.mem_cons_self, added, listed.symm⟩

/--
A waiting cell that gets a state of a record leaves the others where they are.
-/
theorem write
    (aligned : plan.Aligned blocks (place :: waiting))
    (sound : plan.Sound)
    (room : plan.converter.HasRoom plan.primary)
    (fresh : place ∉ waiting)
    (inside : ∀ other ∈ place :: waiting, plan.primary.Inside other)
    {state : UInt32}
    (known : state ∈ plan.converter.entities.overrides) :
    plan.Aligned (blocks.write place state) waiting := by
  have within := aligned.inside_iff.2 (inside place List.mem_cons_self)
  have below := aligned.writable.number_lt within
  have written := aligned.writable.rewritten_write within state
  obtain ⟨added, distinct, overriding, listed⟩ := aligned.table_eq
  have entries := congrArg List.length listed
  rw [List.length_append, Array.length_toList, Array.length_toList, start,
    mapIds, Array.size_map] at entries
  -- A state that is new to the table is one of the overrides that were not
  -- added before.
  have grown : state ∉ blocks.ids → (state :: added).Nodup := by
    intro unknown
    refine List.nodup_cons.2 ⟨fun member => unknown ?_, distinct⟩
    rw [← Array.mem_toList_iff, listed]
    exact List.mem_append_right _ member
  have free : state ∈ blocks.ids ∨ blocks.ids.size < blocks.size := by
    by_cases member : state ∈ blocks.ids
    · exact Or.inl member
    · right
      have fewer :=
        (grown member).length_le_of_subset
          (List.cons_subset.2 ⟨known, overriding⟩)
      rw [List.length_cons, MappingTable.length_overrides] at fewer
      have enough := room.overrides_le (by omega)
      rw [aligned.size_eq sound]
      omega
  obtain ⟨table, kept⟩ := aligned.writable.setIdAtCell_of_room below free
  refine ⟨written.writable, written.edgeBits_eq.trans aligned.edgeBits_eq, ?_,
    ?_⟩
  · intro other member
    have otherWithin :=
      aligned.inside_iff.2 (inside other (List.mem_cons_of_mem _ member))
    have apart : blocks.number other ≠ blocks.number place := by
      intro same
      rw [number_inj otherWithin within] at same
      exact fresh (same ▸ member)
    rw [number_congr written.edgeBits_eq,
      ← aligned.index_eq other (List.mem_cons_of_mem _ member)]
    exact kept _ (aligned.writable.number_lt otherWithin) apart
  · by_cases member : state ∈ blocks.ids
    · refine ⟨added, distinct, overriding, ?_⟩
      rw [Palette.write, setIdAt, ← number, table, if_pos member,
        List.append_nil, listed]
    · refine ⟨added ++ [state], ?_, ?_, ?_⟩
      · exact (List.perm_append_singleton _ _).nodup_iff.2 (grown member)
      · exact List.append_subset.2
          ⟨overriding, List.cons_subset.2 ⟨known, List.nil_subset _⟩⟩
      · rw [Palette.write, setIdAt, ← number, table, if_neg member, listed,
          List.append_assoc]

/-- The step of the visit, cell and palette together. -/
theorem step
    {visit : CellVisit}
    (aligned : plan.Aligned visit.blocks (place :: waiting))
    (sound : plan.Sound)
    (room : plan.converter.HasRoom plan.primary)
    (fresh : place ∉ waiting)
    (inside : ∀ other ∈ place :: waiting, plan.primary.Inside other) :
    plan.Aligned (plan.visit visit place).blocks waiting ∧
      Rewritten visit.blocks (plan.visit visit place).blocks
        (Function.update visit.blocks.read place (plan.state place)) := by
  have here := inside place List.mem_cons_self
  have within := aligned.inside_iff.2 here
  rw [aligned.traces.visit_eq sound here, CellVisit.blocks_attach,
    CellVisit.blocks_counted, state_eq]
  cases override : (plan.entity? place).bind (·.stateOverride) with
  | some state =>
      obtain ⟨entity, found, replaced⟩ := Option.bind_eq_some_iff.1 override
      exact ⟨aligned.write sound room fresh inside
        (Converter.mem_overrides_of_entityFor? found replaced),
        aligned.writable.rewritten_write within state⟩
  | none =>
      have entry := aligned.traces.id?_index sound here
      have read : visit.blocks.read place = plan.mapped place := by
        rw [Palette.read, idAt, idAtCell, ← number,
          Array.getD_eq_getD_getElem?]
        exact congrArg (·.getD 0) entry
      refine ⟨⟨aligned.writable, aligned.edgeBits_eq, fun other member =>
        aligned.index_eq other (List.mem_cons_of_mem _ member),
        aligned.table_eq⟩, ?_⟩
      rw [Option.getD_none, ← read, Function.update_eq_self]
      exact aligned.writable.rewritten_self

end Aligned

/-! ## The whole visit -/

/-- What the visit of some cells adds to what it found before. -/
structure Found
    (plan : VisitPlan)
    (places : List Place)
    (before after : CellVisit) : Prop where
  blocks : Rewritten before.blocks after.blocks fun place =>
    if place ∈ places then plan.state place else before.blocks.read place
  entities : after.entities.toList =
    before.entities.toList ++ places.filterMap fun place =>
      (plan.entity? place).filter (·.hasData)
  nonAir : after.nonAir = before.nonAir + places.countP fun place =>
    plan.mapped place != air

/--
Each cell that is visited gets its state and its block entity, and is counted.
-/
theorem Aligned.found_foldl
    {plan : VisitPlan}
    (sound : plan.Sound)
    (room : plan.converter.HasRoom plan.primary)
    {places : List Place}
    (distinct : places.Nodup)
    (inside : ∀ place ∈ places, plan.primary.Inside place)
    {visit : CellVisit}
    (aligned : plan.Aligned visit.blocks places) :
    plan.Found places visit (places.foldl plan.visit visit) := by
  induction places generalizing visit with
  | nil =>
      exact ⟨aligned.writable.rewritten_self.congr fun _ _ =>
        (if_neg List.not_mem_nil).symm,
          (List.append_nil _).symm, rfl⟩
  | cons place places ih =>
      obtain ⟨fresh, distinct⟩ := List.nodup_cons.1 distinct
      have here := inside place List.mem_cons_self
      obtain ⟨later, written⟩ := aligned.step sound room fresh inside
      have rest :=
        ih distinct
          (fun other member => inside other (List.mem_cons_of_mem _ member))
          later
      have visited := aligned.traces.visit_eq sound here
      refine ⟨(written.trans rest.blocks).congr ?_, ?_, ?_⟩
      · intro other otherWithin
        by_cases same : other = place
        · subst same
          simp [fresh, written.read_eq other otherWithin]
        · simp [same, written.read_eq other otherWithin]
      · rw [List.foldl_cons, rest.entities, visited,
          CellVisit.entities_attach,
          CellVisit.entities_counted, List.append_assoc, List.filterMap_cons]
        cases (plan.entity? place).filter (·.hasData) <;> rfl
      · rw [List.foldl_cons, rest.nonAir, visited, CellVisit.nonAir_attach,
          CellVisit.nonAir_counted, List.countP_cons]
        by_cases empty : plan.mapped place = air
        · simp [empty]
        · simp [empty]
          omega

end VisitPlan

namespace Converter

/-- The plan for the visit of a section. -/
def plan
    (converter : Converter)
    (column : Column)
    (primary : Palette)
    (baseY : Int32) : VisitPlan where
  converter := converter
  column := column
  primary := primary
  owners := primary.ids.map converter.ownerTag?
  baseY := baseY

theorem visitCells_eq
    (converter : Converter)
    (column : Column)
    (primary : Palette)
    (baseY : Int32) :
    converter.visitCells column primary baseY =
      (placesOf 16).foldl (converter.plan column primary baseY).visit
        { blocks := primary.mapIds converter.table.destinationOrAir
          entities := #[]
          nonAir := 0 } :=
  rfl

/--
The visit finds, for every cell of the section, what its block and position
call for.
-/
theorem found_visitCells
    {converter : Converter}
    {primary : Palette}
    (cube : primary.SectionCube)
    (room : converter.HasRoom primary)
    (column : Column)
    (baseY : Int32) :
    (converter.plan column primary baseY).Found (placesOf 16)
      { blocks := primary.mapIds converter.table.destinationOrAir, entities :=
          #[], nonAir := 0 }
      (converter.visitCells column primary baseY) := by
  have sound : (converter.plan column primary baseY).Sound := ⟨cube, rfl⟩
  rw [visitCells_eq]
  apply VisitPlan.Aligned.found_foldl sound room (nodup_placesOf 16)
  · exact fun place => cube.inside_iff.2
  · exact VisitPlan.aligned_start (room.writable cube) _

end Converter

end VoxelRelay
