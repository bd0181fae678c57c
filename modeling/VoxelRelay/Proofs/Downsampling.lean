import VoxelRelay.Conversion.Biomes
import VoxelRelay.Proofs.CellWrites
import VoxelRelay.Proofs.Majorities

/-!
# Biomes that are brought down to size

The biome of a small cube is the majority of its cells, whatever table the
source has.  A source of one biome is not counted at all, and one that has the
destination's size is taken as it is; both agree with the count, so two sources
with the same biome in every cell are converted alike.
-/

namespace VoxelRelay

open Palette

/-! ## Small cubes -/

namespace Palette

/--
The biome that a cell of the destination gets from a source, before it is
mapped.
-/
def smallBiome (source : Palette) (place : Place) : UInt32 :=
  if source.edge = 4 then source.read place
  else majority (source.smallCube place)

theorem smallCube_eq
    (source : Palette)
    (place : Place) :
    source.smallCube place = (placesOf 4).map fun offset =>
      source.read (place.1 * 4 + offset.1, place.2.1 * 4 + offset.2.1,
        place.2.2 * 4 + offset.2.2) :=
  rfl

theorem writable_filled
    {edgeBits : Nat}
    (small : cellCount edgeBits < 2 ^ 16)
    (id : UInt32) :
    (filled edgeBits id).Writable where
  toWellFormed := wellFormed_filled edgeBits id
  size_lt := (wellFormed_filled edgeBits id).size_eq ▸ small
  ids_le := by simp [filled]

theorem majority_smallCube_of_single?
    {source : Palette}
    {id : UInt32}
    (single : source.single? = some id)
    (place : Place) :
    majority (source.smallCube place) = id := by
  apply majority_of_unanimous
  · rw [smallCube_eq]
    exact List.cons_ne_nil _ _
  · intro vote member
    obtain ⟨offset, -, rfl⟩ :=
      List.mem_map.1 (smallCube_eq source place ▸ member)
    exact idAtCell_of_single? single _

/--
A source that is larger than the destination gets the majorities of its small
cubes.
-/
theorem downsample_of_large
    {source : Palette}
    (large : source.edge ≠ 4) :
    source.downsample.WellFormed ∧
    source.downsample.edgeBits = biomeEdgeBits ∧
      ∀ place ∈ placesOf 4,
        source.downsample.read place = majority (source.smallCube place) := by
  unfold Palette.downsample
  cases single : source.single? with
  | some id =>
      refine ⟨wellFormed_filled _ id, rfl, fun place _ => ?_⟩
      exact (read_filled biomeEdgeBits id place).trans
        (majority_smallCube_of_single? single place).symm
  | none =>
      have writable : (biomes (source.idAt 0 0 0)).Writable :=
        writable_filled (by decide) _
      have visited := @Writable.rewritten_foldl
        (fun small place =>
          small.write place (majority (source.smallCube place)))
        (fun place _ => majority (source.smallCube place)) _
        (fun _ _ beforeWritable _ inside =>
          beforeWritable.rewritten_write inside _)
        writable _ (nodup_placesOf 4) fun place member =>
          inside_iff_mem.2 member
      rw [if_neg large]
      refine ⟨visited.writable.toWellFormed, visited.edgeBits_eq,
        fun place member => ?_⟩
      exact (visited.read_eq place (inside_iff_mem.2 member)).trans
        (if_pos member)

/-- A source that has the destination's size is taken cell by cell. -/
theorem WellFormed.downsample_of_small
    {source : Palette}
    (wellFormed : source.WellFormed)
    (small : source.edge = 4) :
    source.downsample.WellFormed ∧
    source.downsample.edgeBits = biomeEdgeBits ∧
      ∀ place ∈ placesOf 4,
        source.downsample.read place = source.read place := by
  unfold Palette.downsample
  cases single : source.single? with
  | some id =>
      refine ⟨wellFormed_filled _ id, rfl, fun place _ => ?_⟩
      exact (read_filled biomeEdgeBits id place).trans
        (idAtCell_of_single? single _).symm
  | none =>
      rw [if_pos small]
      exact ⟨wellFormed, edgeBits_eq_of_edge small, fun _ _ => rfl⟩

/-- The source brought down to the destination's size, cell by cell. -/
theorem WellFormed.downsample
    {source : Palette}
    (wellFormed : source.WellFormed) :
    source.downsample.WellFormed ∧
    source.downsample.edgeBits = biomeEdgeBits ∧
      ∀ place ∈ placesOf 4,
        source.downsample.read place = source.smallBiome place := by
  unfold smallBiome
  split
  · next small => exact wellFormed.downsample_of_small small
  · next large => exact downsample_of_large large

theorem smallBiome_congr
    {left right : Palette}
    (leftFormed : left.WellFormed)
    (rightFormed : right.WellFormed)
    (edge : left.edge = 16 ∨ left.edge = 4)
    (same : left.toList = right.toList)
    {place : Place}
    (member : place ∈ placesOf 4) :
    left.smallBiome place = right.smallBiome place := by
  have edges : left.edge = right.edge :=
    edge_congr (leftFormed.edgeBits_eq_of_toList_eq rightFormed same)
  unfold smallBiome
  rw [← edges]
  split
  · next small =>
      exact leftFormed.read_eq_of_toList_eq rightFormed same
        (inside_iff_mem.2 (small ▸ member))
  · next large =>
      rw [smallCube_eq, smallCube_eq]
      congr 1
      apply List.map_congr_left
      intro offset within
      obtain ⟨xLt, yLt, zLt⟩ := mem_placesOf_iff.1 member
      obtain ⟨dxLt, dyLt, dzLt⟩ := mem_placesOf_iff.1 within
      apply leftFormed.read_eq_of_toList_eq rightFormed same
      rw [Inside, edge.resolve_right large]
      refine ⟨?_, ?_, ?_⟩ <;> dsimp only <;> omega

end Palette

namespace MappingTable

/-- Biomes that are the same in every cell are converted to biomes that are. -/
theorem toList_convertBiomes_congr
    (table : MappingTable)
    {left right : Option Palette}
    (leftFormed : ∀ biomes ∈ left, biomes.WellFormed ∧
      (biomes.edge = 16 ∨ biomes.edge = 4))
    (rightFormed : ∀ biomes ∈ right, biomes.WellFormed)
    (same : left.map (·.toList) = right.map (·.toList)) :
    (table.convertBiomes left).toList =
      (table.convertBiomes right).toList := by
  cases left with
  | none =>
      cases right with
      | none => rfl
      | some right => cases same
  | some left =>
      cases right with
      | none => cases same
      | some right =>
          obtain ⟨leftFormed, leftEdge⟩ := leftFormed left rfl
          have rightFormed := rightFormed right rfl
          obtain ⟨leftSmall, leftBits, leftRead⟩ := leftFormed.downsample
          obtain ⟨rightSmall, rightBits, rightRead⟩ := rightFormed.downsample
          have equal := Option.some.inj same
          refine ((leftSmall.mapIds _).toList_eq_iff (rightSmall.mapIds _)
            (leftBits.trans rightBits.symm)).2 fun place inside => ?_
          have leftInside : left.downsample.Inside place := inside
          have rightInside : right.downsample.Inside place :=
            (inside_congr (leftBits.trans rightBits.symm)).1 leftInside
          have member : place ∈ placesOf 4 := by
            have small : left.downsample.edge = 4 := by
              rw [edge, leftBits]
              rfl
            rw [← small]
            exact inside_iff_mem.1 leftInside
          rw [leftSmall.read_mapIds _ leftInside,
            rightSmall.read_mapIds _ rightInside, leftRead place member,
            rightRead place member,
            smallBiome_congr leftFormed rightFormed leftEdge equal member]

end MappingTable

end VoxelRelay
