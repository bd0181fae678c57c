import VoxelRelay.Light.Sky

/-!
# Block light

Blocks that give off light start at the level of their emission, at most the
brightest.  The light of the neighbors comes in over the border, and all of it
spreads.  A slab that no light reaches stays absent.
-/

namespace VoxelRelay

/-- Lets the cells of a section that give off light start at their emission. -/
def Flood.igniteSection
    (properties : LightProperties)
    (palette : Palette)
    (slot : Nat)
    (flood : Flood) : Flood :=
  if palette.anyId (fun id => 0 < properties.emission id) then
    (Voxel.ofSection slot).foldl (fun flood voxel =>
      let emission :=
        properties.emission (palette.idAt voxel.x voxel.y voxel.z)
      if 0 < emission then flood.raise voxel (min emission maxLevel)
      else flood) flood
  else flood

/--
Lets all cells that give off light start at their emission, the lowest section
first.
-/
def Flood.ignite
    (properties : LightProperties)
    (sections : Array Palette)
    (flood : Flood) : Flood :=
  (sections.foldl (fun (flood, slot) palette =>
    (flood.igniteSection properties palette slot, slot + 1)) (flood, 0)).1

/-- The block light of a column. -/
def LightInput.blockLight
    (properties : LightProperties)
    (input : LightInput) : LightData :=
  let neighbors :=
    input.neighborLight.map fun light => light.map ColumnLight.block
  let start := Flood.still (.empty input.sections.size)
  let lit := start.ignite properties input.sections
  (lit.inject properties input.sections neighbors).settle properties
    input.sections

/-- The light of a column. -/
def LightInput.light
    (properties : LightProperties)
    (input : LightInput) : ColumnLight where
  sky := input.skyLight properties
  block := input.blockLight properties

end VoxelRelay
