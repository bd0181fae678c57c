import VoxelRelay.Proofs.ColumnContents

/-!
# Biomes by majority

The biomes of a converted section are those that win in the small cubes of the
source, shown by the table or, where it does not know them, by its biome for
unknown ones.  Nothing is asked of the source but its size, since it is only
read; a source that has the destination's size already is shown cell by cell.

The main result is `biomes_convert`.
-/

namespace VoxelRelay

open Palette

theorem smallCube_ne_nil
    (source : Palette)
    (place : Place) :
    source.smallCube place ≠ [] := by
  rw [smallCube_eq]
  exact List.cons_ne_nil _ _

namespace MappingTable

variable {source : Palette}

theorem convertBiomes_some
    (table : MappingTable)
    (source : Palette) :
    table.convertBiomes (some source) =
      source.downsample.mapIds table.biomeOrFallback :=
  rfl

theorem edge_convertBiomes
    (table : MappingTable)
    (bits : source.downsample.edgeBits = biomeEdgeBits) :
    (table.convertBiomes (some source)).edge = 4 := by
  rw [convertBiomes_some, Palette.edge, Palette.mapIds, bits]
  rfl

/-- What is shown in a cell is what was there before the table was asked. -/
theorem read_convertBiomes
    (table : MappingTable)
    (small : source.downsample.WellFormed)
    (bits : source.downsample.edgeBits = biomeEdgeBits)
    {place : Place}
    (member : place ∈ placesOf 4) :
    (table.convertBiomes (some source)).read place =
      (table.biome? (source.downsample.read place)).getD
        table.fallbackBiome := by
  have inside : source.downsample.Inside place := by
    rw [inside_iff_mem, Palette.edge, bits]
    exact member
  rw [convertBiomes_some, small.read_mapIds table.biomeOrFallback inside,
    biomeOrFallback]

end MappingTable

namespace Converter

/--
Each cell of the biomes of a converted section shows the one biome that wins in
the small cube of the source there: the one with the most cells and, of those
with as many, the first to have them.
-/
theorem biomes_convert
    (converter : Converter)
    {column : Column}
    {slot : Nat}
    {content : Section}
    {source : Palette}
    (here : column.sections[slot]? = some content)
    (held : content.biomes = some source)
    (minY : Int32) :
    ∃ target, (converter.convert column minY).sections[slot]? = some target ∧
      (source.edge = 16 → target.biomes.edge = 4 ∧ ∀ x y z : Fin 4, ∃ biome,
        (∀ other, Wins (source.smallCube (x, y, z)) other ↔ other = biome) ∧
        target.biomes.idAt x y z =
          (converter.table.biome? biome).getD converter.table.fallbackBiome) ∧
      (source.edge = 4 → source.WellFormed → target.biomes.edge = 4 ∧
        ∀ x y z : Fin 4,
        target.biomes.idAt x y z =
          (converter.table.biome? (source.idAt x y z)).getD
            converter.table.fallbackBiome) := by
  refine ⟨(converter.convertSection column minY slot content).1, ?_, ?_⟩
  · rw [sections_convert, Array.getElem?_map, Array.getElem?_mapIdx, here]
    rfl
  rw [biomes_convertSection, held]
  refine ⟨fun large => ?_, fun small wellFormed => ?_⟩
  · obtain ⟨formed, bits, read⟩ := @downsample_of_large source (by omega)
    refine ⟨converter.table.edge_convertBiomes bits, fun x y z => ?_⟩
    have wins := wins_majority (smallCube_ne_nil source (x, y, z))
    have member : ((x, y, z) : Place) ∈ placesOf 4 :=
      mem_placesOf_iff.2 ⟨x.isLt, y.isLt, z.isLt⟩
    refine ⟨majority (source.smallCube (x, y, z)),
      fun other =>
        ⟨fun others => others.unique wins, fun same => same ▸ wins⟩, ?_⟩
    have shown := converter.table.read_convertBiomes formed bits member
    rw [read _ member] at shown
    exact shown
  · obtain ⟨formed, bits, read⟩ := wellFormed.downsample_of_small small
    refine ⟨converter.table.edge_convertBiomes bits, fun x y z => ?_⟩
    have member : ((x, y, z) : Place) ∈ placesOf 4 :=
      mem_placesOf_iff.2 ⟨x.isLt, y.isLt, z.isLt⟩
    have shown := converter.table.read_convertBiomes formed bits member
    rw [read _ member] at shown
    exact shown

/--
Every small cube has land in its western half and water in the eastern one.
-/
def shoreBiomes : Palette where
  edgeBits := blockEdgeBits
  ids := #[7, 8]
  indices := ⟨2, 4096, Array.replicate 128 0x5050505050505050⟩

def shoreSection : Section := .ofLayers #[] (some shoreBiomes)

/-- A lake with an island, in as many cells as the destination has. -/
def lakeBiomes : Palette := (Palette.biomes 8).setIdAt 1 2 3 7

theorem wellFormed_lakeBiomes : lakeBiomes.WellFormed :=
  (wellFormed_filled biomeEdgeBits 8).setIdAtCell (by decide) (by decide) 7

def lakeSection : Section := .ofLayers #[] (some lakeBiomes)

def shoreColumn : Column := ⟨⟨0, 0⟩, #[shoreSection, lakeSection], #[], 2⟩

/-- The converter that shows land and water. -/
def shoreConverter : Converter :=
  let table :=
    [.biome 7 70, .biome 8 80].foldl MappingTable.added (.create 0 0)
  ⟨table, table⟩

/--
Land is counted first, and so it wins the tie; the lake is shown cell by cell.
-/
theorem biomes_convert_shore :
    (shoreColumn.sections[0]? = some shoreSection ∧
      shoreSection.biomes = some shoreBiomes) ∧
      (shoreColumn.sections[1]? = some lakeSection ∧
        lakeSection.biomes = some lakeBiomes ∧ lakeBiomes.WellFormed) ∧
      (shoreBiomes.smallCube (0, 0, 0)).count 7 =
        (shoreBiomes.smallCube (0, 0, 0)).count 8 ∧
      ∃ shore lake, (shoreConverter.convert shoreColumn 0).sections[0]? =
        some shore ∧
        (shoreConverter.convert shoreColumn 0).sections[1]? = some lake ∧
        shore.biomes.idAt 0 0 0 = 70 ∧
        lake.biomes.idAt 1 2 3 = 70 ∧ lake.biomes.idAt 0 0 0 = 80 := by
  have first : shoreColumn.sections[0]? = some shoreSection := rfl
  have second : shoreColumn.sections[1]? = some lakeSection := rfl
  obtain ⟨shore, found, large, -⟩ := shoreConverter.biomes_convert first rfl 0
  obtain ⟨lake, known, -, small⟩ := shoreConverter.biomes_convert second rfl 0
  obtain ⟨biome, winner, shown⟩ := (large (by decide)).2 0 0 0
  have same := (small (by decide +kernel) wellFormed_lakeBiomes).2
  have land : majority (shoreBiomes.smallCube (0, 0, 0)) = 7 := by
    decide +kernel
  have wins : Wins (shoreBiomes.smallCube (0, 0, 0)) 7 :=
    land ▸ wins_majority (smallCube_ne_nil _ _)
  obtain rfl : 7 = biome := (winner 7).1 wins
  refine ⟨⟨first, rfl⟩, ⟨second, rfl, wellFormed_lakeBiomes⟩,
    by decide +kernel, shore, lake, found, known, shown.trans ?_,
    (same 1 2 3).trans ?_, (same 0 0 0).trans ?_⟩
  · cbv
  · cbv
  · cbv

end Converter

end VoxelRelay
