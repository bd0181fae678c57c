import Mathlib.Data.List.Nodup
import Mathlib.Logic.Function.Basic
import Mathlib.Tactic.Ring
import VoxelRelay.Conversion.Blocks
import VoxelRelay.Proofs.PaletteCompaction

/-!
# Cubes place by place

A cube is what its places hold; how its table is ordered, what else stands in
it and how wide its indices are does not matter to a reader.  So what changes a
cube is described by the values that its places have afterwards: mapping the
table maps every value, a write gives one place another value, and going
through places one by one gives each the value that is written there.
Waterlogging a section is of the last kind.
-/

namespace VoxelRelay

/-- The place of a cell in a cube, by its coordinates. -/
abbrev Place : Type := Nat × Nat × Nat

/-- The places of a cube in rows, as sections and biomes are gone through. -/
def placesOf (edge : Nat) : List Place :=
  (List.range edge).flatMap fun x =>
    (List.range edge).flatMap fun z => (List.range edge).map fun y =>
      (x, y, z)

theorem mem_placesOf_iff
    {edge : Nat}
    {place : Place} :
    place ∈ placesOf edge ↔
      place.1 < edge ∧ place.2.1 < edge ∧ place.2.2 < edge := by
  obtain ⟨x, y, z⟩ := place
  simp [placesOf]
  tauto

theorem nodup_placesOf (edge : Nat) : (placesOf edge).Nodup := by
  unfold placesOf
  rw [List.nodup_flatMap]
  refine ⟨fun x _ => ?_, ?_⟩
  · rw [List.nodup_flatMap]
    refine ⟨fun z _ => ?_, ?_⟩
    · exact List.nodup_range.map fun _ _ same => by simpa using same
    · apply List.nodup_range.imp
      intro z other apart place first second
      simp only [List.mem_map] at first second
      obtain ⟨_, -, rfl⟩ := first
      obtain ⟨_, -, same⟩ := second
      simp only [Prod.mk.injEq] at same
      exact apart same.2.2.symm
  · apply List.nodup_range.imp
    intro x other apart place first second
    simp only [List.mem_flatMap, List.mem_map] at first second
    obtain ⟨_, -, _, -, rfl⟩ := first
    obtain ⟨_, -, _, -, same⟩ := second
    simp only [Prod.mk.injEq] at same
    exact apart same.1.symm

theorem exists_placesOf_succ (edge : Nat) :
    ∃ rest, placesOf (edge + 1) = (0, 0, 0) :: rest := by
  rw [placesOf, List.range_succ_eq_map]
  exact ⟨_, rfl⟩

theorem visitOrder_eq : visitOrder = placesOf 16 := rfl

namespace Palette

/-- Whether a place lies in a cube. -/
def Inside (palette : Palette) (place : Place) : Prop :=
  place.1 < palette.edge ∧ place.2.1 < palette.edge ∧ place.2.2 < palette.edge

/-- The number of the cell at a place. -/
def number (palette : Palette) (place : Place) : Nat :=
  palette.cell place.1 place.2.1 place.2.2

/-- The identifier at a place. -/
def read (palette : Palette) (place : Place) : UInt32 :=
  palette.idAt place.1 place.2.1 place.2.2

/-- Writes an identifier at a place. -/
def write (palette : Palette) (place : Place) (id : UInt32) : Palette :=
  palette.setIdAt place.1 place.2.1 place.2.2 id

theorem inside_iff_mem
    {palette : Palette}
    {place : Place} :
    palette.Inside place ↔ place ∈ placesOf palette.edge :=
  mem_placesOf_iff.symm

theorem SectionCube.inside_iff
    {palette : Palette}
    (cube : palette.SectionCube)
    {place : Place} :
    palette.Inside place ↔ place ∈ placesOf 16 := by
  rw [inside_iff_mem, cube.edge_eq]

theorem edge_congr
    {left right : Palette}
    (same : left.edgeBits = right.edgeBits) :
    left.edge = right.edge := by
  rw [edge, edge, same]

theorem inside_congr
    {left right : Palette}
    (same : left.edgeBits = right.edgeBits)
    {place : Place} :
    left.Inside place ↔ right.Inside place := by
  rw [Inside, Inside, edge_congr same]

theorem number_congr
    {left right : Palette}
    (same : left.edgeBits = right.edgeBits)
    (place : Place) :
    left.number place = right.number place := by
  rw [number, number, cell, cell, edge_congr same]

/-! ## Places and cells -/

theorem cellCount_eq (edgeBits : Nat) :
    cellCount edgeBits =
      (1 <<< edgeBits) * (1 <<< edgeBits) * (1 <<< edgeBits) := by
  simp only [cellCount, Nat.one_shiftLeft]
  ring

theorem WellFormed.size_eq_edge
    {palette : Palette}
    (wellFormed : palette.WellFormed) :
    palette.size = palette.edge * palette.edge * palette.edge := by
  rw [wellFormed.size_eq, cellCount_eq]
  rfl

theorem WellFormed.number_lt
    {palette : Palette}
    (wellFormed : palette.WellFormed)
    {place : Place}
    (inside : palette.Inside place) :
    palette.number place < palette.size := by
  obtain ⟨xLt, yLt, zLt⟩ := inside
  rw [wellFormed.size_eq_edge, number, cell]
  calc
    (place.2.1 * palette.edge + place.2.2) * palette.edge + place.1
        < (place.2.1 * palette.edge + place.2.2 + 1) * palette.edge := by
          rw [Nat.add_one_mul]
          omega
    _ ≤ ((place.2.1 + 1) * palette.edge) * palette.edge := by
          apply Nat.mul_le_mul_right
          rw [Nat.add_one_mul]
          omega
    _ ≤ palette.edge * palette.edge * palette.edge :=
          Nat.mul_le_mul_right _ (Nat.mul_le_mul_right _ yLt)

/-- Different places have different numbers. -/
theorem number_inj
    {palette : Palette}
    {place other : Place}
    (inside : palette.Inside place)
    (otherInside : palette.Inside other) :
    palette.number place = palette.number other ↔ place = other := by
  refine ⟨fun same => ?_, fun same => same ▸ rfl⟩
  obtain ⟨x, y, z⟩ := place
  obtain ⟨x', y', z'⟩ := other
  obtain ⟨xLt, -, zLt⟩ := inside
  obtain ⟨xLt', -, zLt'⟩ := otherInside
  simp only [number, cell] at same xLt zLt xLt' zLt'
  have positive : 0 < palette.edge := Nat.zero_lt_of_lt xLt
  have rows := congrArg (· / palette.edge) same
  have first := congrArg (· % palette.edge) same
  simp only [Nat.mul_add_div positive, Nat.mul_add_mod,
    Nat.mul_comm _ palette.edge, Nat.div_eq_of_lt xLt, Nat.div_eq_of_lt xLt',
    Nat.mod_eq_of_lt xLt, Nat.mod_eq_of_lt xLt', Nat.add_zero] at rows first
  have layers := congrArg (· / palette.edge) rows
  have third := congrArg (· % palette.edge) rows
  simp only [Nat.mul_add_div positive, Nat.mul_add_mod, Nat.div_eq_of_lt zLt,
    Nat.div_eq_of_lt zLt', Nat.mod_eq_of_lt zLt, Nat.mod_eq_of_lt zLt',
    Nat.add_zero]
    at layers third
  rw [first, layers, third]

/-- Every cell lies at some place. -/
theorem WellFormed.exists_number_eq
    {palette : Palette}
    (wellFormed : palette.WellFormed)
    {cell : Nat}
    (below : cell < palette.size) :
    ∃ place, palette.Inside place ∧ palette.number place = cell := by
  rw [wellFormed.size_eq_edge] at below
  have positive : 0 < palette.edge := by
    rcases Nat.eq_zero_or_pos palette.edge with none | some
    · simp [none] at below
    · exact some
  refine ⟨(cell % palette.edge, cell / palette.edge / palette.edge,
    cell / palette.edge % palette.edge),
    ⟨Nat.mod_lt _ positive, ?_, Nat.mod_lt _ positive⟩, ?_⟩
  · rw [Nat.div_div_eq_div_mul,
      Nat.div_lt_iff_lt_mul (Nat.mul_pos positive positive),
      ← Nat.mul_assoc]
    exact below
  · rw [number, Palette.cell, Nat.div_add_mod' (cell / palette.edge),
      Nat.div_add_mod']

theorem read_filled
    (edgeBits : Nat)
    (id : UInt32)
    (place : Place) :
    (filled edgeBits id).read place = id :=
  idAtCell_filled edgeBits id ((filled edgeBits id).number place)

/--
Two cubes of one edge list the same identifiers when they hold the same at
every place.
-/
theorem WellFormed.toList_eq_iff
    {left right : Palette}
    (leftFormed : left.WellFormed)
    (rightFormed : right.WellFormed)
    (same : left.edgeBits = right.edgeBits) :
    left.toList = right.toList ↔
      ∀ place, left.Inside place → left.read place = right.read place := by
  have sizes : left.size = right.size := by
    rw [leftFormed.size_eq, rightFormed.size_eq, same]
  have numbers := number_congr same
  rw [toList, toList, ← sizes, List.map_inj_left]
  constructor
  · intro cells place inside
    have equal := cells _ (List.mem_range.2 (leftFormed.number_lt inside))
    rw [read, idAt, read, idAt, ← number, ← number, equal, numbers]
  · intro places cell member
    obtain ⟨place, inside, rfl⟩ :=
      leftFormed.exists_number_eq (List.mem_range.1 member)
    have equal := places place inside
    rw [read, idAt, read, idAt, ← number, ← number] at equal
    rw [equal, numbers]

theorem edgeBits_eq_of_edge
    {palette : Palette}
    {bits : Nat}
    (edge : palette.edge = 1 <<< bits) :
    palette.edgeBits = bits := by
  rw [Palette.edge, Nat.one_shiftLeft, Nat.one_shiftLeft] at edge
  exact Nat.pow_right_injective (le_refl 2) edge

theorem cellCount_injective : Function.Injective cellCount := by
  intro left right same
  simp only [cellCount, Nat.one_shiftLeft] at same
  have powers := Nat.pow_right_injective (le_refl 2) same
  omega

/-- Cubes that list the same identifiers have the same edge. -/
theorem WellFormed.edgeBits_eq_of_toList_eq
    {left right : Palette}
    (leftFormed : left.WellFormed)
    (rightFormed : right.WellFormed)
    (same : left.toList = right.toList) :
    left.edgeBits = right.edgeBits := by
  have sizes := congrArg List.length same
  rw [toList, toList, List.length_map, List.length_map, List.length_range,
    List.length_range, leftFormed.size_eq, rightFormed.size_eq] at sizes
  exact cellCount_injective sizes

/-- Cubes that list the same identifiers hold the same at every place. -/
theorem WellFormed.read_eq_of_toList_eq
    {left right : Palette}
    (leftFormed : left.WellFormed)
    (rightFormed : right.WellFormed)
    (same : left.toList = right.toList)
    {place : Place}
    (inside : left.Inside place) :
    left.read place = right.read place :=
  (leftFormed.toList_eq_iff rightFormed
    (leftFormed.edgeBits_eq_of_toList_eq rightFormed same)).1 same
    place inside

/-! ## Cubes with other values -/

/-- A writable cube of the same edge that holds a given value at every place. -/
structure Rewritten
    (before after : Palette)
    (value : Place → UInt32) : Prop where
  writable : after.Writable
  edgeBits_eq : after.edgeBits = before.edgeBits
  read_eq : ∀ place, before.Inside place → after.read place = value place

theorem Rewritten.congr
    {before after : Palette}
    {value other : Place → UInt32}
    (rewritten : Rewritten before after value)
    (same : ∀ place, before.Inside place → value place = other place) :
    Rewritten before after other :=
  ⟨rewritten.writable, rewritten.edgeBits_eq,
    fun place inside =>
      (rewritten.read_eq place inside).trans (same place inside)⟩

theorem Rewritten.inside_iff
    {before after : Palette}
    {value : Place → UInt32}
    (rewritten : Rewritten before after value)
    {place : Place} :
    after.Inside place ↔ before.Inside place :=
  inside_congr rewritten.edgeBits_eq

theorem Rewritten.trans
    {first second third : Palette}
    {value other : Place → UInt32}
    (before : Rewritten first second value)
    (after : Rewritten second third other) :
    Rewritten first third other :=
  ⟨after.writable, after.edgeBits_eq.trans before.edgeBits_eq,
    fun place inside => after.read_eq place (before.inside_iff.2 inside)⟩

theorem Writable.rewritten_self
    {palette : Palette}
    (writable : palette.Writable) :
    Rewritten palette palette palette.read :=
  ⟨writable, rfl, fun _ _ => rfl⟩

theorem Writable.rewritten_write
    {palette : Palette}
    (writable : palette.Writable)
    {place : Place}
    (inside : palette.Inside place)
    (id : UInt32) :
    Rewritten palette (palette.write place id)
      (Function.update palette.read place id) where
  writable := writable.setIdAtCell (writable.number_lt inside) id
  edgeBits_eq := palette.edgeBits_setIdAtCell_eq _ id
  read_eq := by
    intro other otherInside
    have numbers : (palette.write place id).number other =
        palette.number other :=
      number_congr (palette.edgeBits_setIdAtCell_eq _ id) other
    rw [read, idAt, ← number, numbers]
    refine (writable.idAtCell_setIdAtCell (writable.number_lt inside)
      (writable.number_lt otherInside) id).trans ?_
    rw [Function.update_apply]
    exact if_congr (number_inj otherInside inside) rfl rfl

/-- Mapping the table keeps the cube. -/
theorem WellFormed.mapIds
    {palette : Palette}
    (wellFormed : palette.WellFormed)
    (change : UInt32 → UInt32) :
    (palette.mapIds change).WellFormed where
  sized := wellFormed.sized
  width_eq := by
    rw [Palette.mapIds, Array.size_map]
    exact wellFormed.width_eq
  size_eq := wellFormed.size_eq
  ids_pos := by
    rw [Palette.mapIds, Array.size_map]
    exact wellFormed.ids_pos
  index_lt := by
    intro cell inside
    rw [Palette.mapIds, Array.size_map]
    exact wellFormed.index_lt cell inside

/-- Mapping the table maps the value at every place. -/
theorem WellFormed.read_mapIds
    {palette : Palette}
    (wellFormed : palette.WellFormed)
    (change : UInt32 → UInt32)
    {place : Place}
    (inside : palette.Inside place) :
    (palette.mapIds change).read place = change (palette.read place) := by
  have bound := wellFormed.index_lt _ (wellFormed.number_lt inside)
  have same : (palette.mapIds change).number place = palette.number place :=
    rfl
  rw [read, idAt, ← number, same, read, idAt, ← number, idAtCell, idAtCell,
    Palette.mapIds]
  simp [Array.getD_eq_getD_getElem?, bound]

theorem Writable.rewritten_mapIds
    {palette : Palette}
    (writable : palette.Writable)
    (change : UInt32 → UInt32) :
    Rewritten palette (palette.mapIds change) fun place =>
      change (palette.read place) where
  writable := {
    toWellFormed := writable.toWellFormed.mapIds change
    size_lt := writable.size_lt
    ids_le := by
      rw [mapIds, Array.size_map]
      exact writable.ids_le }
  edgeBits_eq := rfl
  read_eq := fun _ inside => writable.toWellFormed.read_mapIds change inside

/--
Going through places one by one gives each the value that is written there.
-/
theorem Writable.rewritten_foldl
    {step : Palette → Place → Palette}
    {value : Place → UInt32 → UInt32}
    {palette : Palette}
    (writes : ∀ (before : Palette) (place : Place), before.Writable →
      before.edgeBits = palette.edgeBits → before.Inside place →
      Rewritten before (step before place)
        (Function.update before.read place (value place (before.read place))))
    (writable : palette.Writable)
    {places : List Place}
    (distinct : places.Nodup)
    (inside : ∀ place ∈ places, palette.Inside place) :
    Rewritten palette (places.foldl step palette) fun place =>
      if place ∈ places then value place (palette.read place)
      else palette.read place := by
  -- The places that are still to come hold what they held at the start.
  have general :
      ∀ (rest : List Place) (before : Palette) (sofar : Place → UInt32),
      rest.Nodup → (∀ place ∈ rest, palette.Inside place) →
        Rewritten palette before sofar →
      Rewritten palette (rest.foldl step before) fun place =>
        if place ∈ rest then value place (sofar place) else sofar place := by
    intro rest
    induction rest with
    | nil =>
        intro before sofar _ _ rewritten
        exact rewritten.congr fun _ _ => (if_neg List.not_mem_nil).symm
    | cons place rest ih =>
        intro before sofar distinct inside rewritten
        obtain ⟨fresh, distinct⟩ := List.nodup_cons.1 distinct
        have here := inside place List.mem_cons_self
        have written :=
          rewritten.trans (writes before place rewritten.writable
            rewritten.edgeBits_eq (rewritten.inside_iff.2 here))
        refine (ih _ _ distinct (fun other member =>
          inside other (List.mem_cons_of_mem _ member)) written).congr ?_
        intro other otherInside
        by_cases same : other = place
        · subst same
          simp [fresh, rewritten.read_eq other here]
        · simp [same, rewritten.read_eq other otherInside]
  exact general places palette palette.read distinct inside
    writable.rewritten_self

end Palette

/-! ## Waterlogging -/

namespace MappingTable

/-- The state to show for one that lies under an overlay block. -/
def wetState (table : MappingTable) (below above state : UInt32) : UInt32 :=
  if table.waterlogs below above then (table.waterlogged? state).getD state
  else state

open Palette

theorem waterlogCell_eq
    (table : MappingTable)
    (primary overlay blocks : Palette)
    (place : Place) :
    table.waterlogCell primary overlay blocks place =
      if table.waterlogs (primary.read place) (overlay.read place) then
        match table.waterlogged? (blocks.read place) with
        | some state => blocks.write place state
        | none => blocks
      else blocks :=
  rfl

/--
One cell gets its waterlogged form; without one, or without water, it stays as
it is.
-/
theorem rewritten_waterlogCell
    (table : MappingTable)
    (primary overlay : Palette)
    {blocks : Palette}
    (writable : blocks.Writable)
    {place : Place}
    (inside : blocks.Inside place) :
    Rewritten blocks (table.waterlogCell primary overlay blocks place)
      (Function.update blocks.read place
        (table.wetState (primary.read place) (overlay.read place)
          (blocks.read place))) := by
  have unchanged : Rewritten blocks blocks
      (Function.update blocks.read place (blocks.read place)) := by
    rw [Function.update_eq_self]
    exact writable.rewritten_self
  rw [waterlogCell_eq, wetState]
  split
  · cases table.waterlogged? (blocks.read place) with
    | none => exact unchanged
    | some state => exact writable.rewritten_write inside state
  · exact unchanged

/--
Waterlogging a section gives every cell its waterlogged form if it lies under
water.
-/
theorem rewritten_waterlog
    (table : MappingTable)
    (primary overlay : Palette)
    {blocks : Palette}
    (writable : blocks.Writable)
    (edge : blocks.edge = 16) :
    Rewritten blocks (table.waterlog primary overlay blocks) fun place =>
      table.wetState (primary.read place) (overlay.read place)
        (blocks.read place) := by
  unfold waterlog
  split
  · next dry =>
      -- An overlay of air alone waterlogs nothing.
      apply writable.rewritten_self.congr
      intro place _
      have above : overlay.read place = table.sourceAir :=
        idAtCell_of_single? dry _
      simp [wetState, waterlogs, above]
  · have places : ∀ place, place ∈ visitOrder ↔ blocks.Inside place := by
      intro place
      rw [visitOrder_eq, inside_iff_mem, edge]
    have visited := writable.rewritten_foldl
      (fun _ _ beforeWritable _ inside =>
        table.rewritten_waterlogCell primary overlay beforeWritable inside)
      (nodup_placesOf 16) fun place => (places place).1
    exact visited.congr fun place inside => if_pos ((places place).2 inside)

end MappingTable

end VoxelRelay
