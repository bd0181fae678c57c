import VoxelRelay.Mapping
import VoxelRelay.Palette
import VoxelRelay.Warning

/-!
# Converting biomes

The destination has one biome for every cube of four blocks a side.  A source
cube of 16 is brought down to 4 by majority: the biome that fills most of the
small cube wins, and of several that fill the same number of cells, the one
that got there first.
-/

namespace VoxelRelay

/-- A count of votes under way. -/
structure Tally where
  /-- The votes cast so far. -/
  cast : List UInt32
  /-- The leader and its votes. -/
  best : UInt32
  votes : Nat
deriving Repr, Inhabited

/-- Casts a vote; a new leader needs more votes than the old one. -/
def Tally.add (tally : Tally) (id : UInt32) : Tally :=
  let cast := id :: tally.cast
  let votes := cast.count id
  if tally.votes < votes then ⟨cast, id, votes⟩
  else { tally with cast := cast }

/--
The identifier with the most votes, the first to reach that number among
equals.
-/
def majority (votes : List UInt32) : UInt32 :=
  (votes.foldl Tally.add ⟨[], 0, 0⟩).best

/--
The cells of a cube of four a side in the order of counting: along `x`, then
`z`, then `y`.
-/
def countOrder : List (Nat × Nat × Nat) :=
  (List.range 4).flatMap fun x =>
    (List.range 4).flatMap fun z =>
      (List.range 4).map fun y => (x, y, z)

/-- The biomes of one small cube of a source palette. -/
def Palette.smallCube
    (source : Palette)
    (cell : Nat × Nat × Nat) : List UInt32 :=
  let (x, y, z) := cell
  countOrder.map fun (dx, dy, dz) =>
    source.idAt (x * 4 + dx) (y * 4 + dy) (z * 4 + dz)

/-- Brings the biomes of a section down to the destination's size. -/
def Palette.downsample (source : Palette) : Palette :=
  match source.single? with
  | some id => .biomes id
  | none =>
      if source.edge = 4 then source
      else
        countOrder.foldl (fun small cell =>
          small.setIdAt cell.1 cell.2.1 cell.2.2
            (majority (source.smallCube cell)))
          (.biomes (source.idAt 0 0 0))

namespace MappingTable

/--
The destination biome of a source biome, or the one shown for unknown ones.
-/
def biomeOrFallback (table : MappingTable) (source : UInt32) : UInt32 :=
  (table.biome? source).getD table.fallbackBiome

/-- Converts the biomes of a section. -/
def convertBiomes (table : MappingTable) : Option Palette → Palette
  | none => .biomes table.fallbackBiome
  | some source => source.downsample.mapIds table.biomeOrFallback

/-- The remarks on biomes that are unknown. -/
def biomeWarnings (table : MappingTable) : Option Palette → List Warning
  | none => []
  | some source =>
      (source.downsample.ids.toList.filter fun id =>
        (table.biome? id).isNone).map .unmappedBiome

end MappingTable

end VoxelRelay
