import VoxelRelay.Light.Flood

/-!
# Sky light

Sky light enters every column of cells at the brightest level and goes
straight down; each cell takes away what it filters, and a section of nothing
but air takes nothing.  What is left lies in the slab below the bottom.  Then
the light of the neighbors comes in over the border, and all of it spreads
from the cells that have a darker one beside them.
-/

namespace VoxelRelay

/--
One level for each of the 256 cells of a horizontal layer, numbered
`16 * z + x`.
-/
abbrev LightLayer := Vector Nat 256

namespace LightLayer

/-- A layer at the brightest level. -/
def full : LightLayer := Vector.replicate 256 maxLevel

/-- The level of a numbered cell of a layer. -/
@[inline]
def get (layer : LightLayer) (place : Nat) : Nat := layer.toArray.getD place 0

/--
What is left of the light from above after a layer of cells has filtered it.
-/
def filtered (above : LightLayer) (filter : Nat → Nat) : LightLayer :=
  above.mapIdx fun place level =>
    if level = 0 then 0 else level - filter place

end LightLayer

/-- The filters of a layer of a section. -/
@[inline]
def layerFilter
    (properties : LightProperties)
    (palette : Palette)
    (y place : Nat) : Nat :=
  properties.filter (palette.idAt (place % 16) y (place / 16))

/--
The layers of light in the lowest `count` layers of a section, the highest
first.
-/
def descend
    (properties : LightProperties)
    (palette : Palette) : Nat → LightLayer → List LightLayer
  | 0, _ => []
  | y + 1, above =>
      let layer := above.filtered (layerFilter properties palette y)
      layer :: descend properties palette y layer

/-- A slab all of whose layers are the same. -/
def LightLayer.columns (layer : LightLayer) : LightSlab :=
  .ofFn fun index => layer.get (index % 256)

/-- A slab from its sixteen layers, the highest first. -/
def slabOfLayers (layers : Array LightLayer) : LightSlab :=
  .ofFn fun index =>
    match layers[15 - index / 256]? with
    | some layer => layer.get (index % 256)
    | none => 0

/--
Light going straight down through a section: the layer below it and its slab.
-/
def descendSection
    (properties : LightProperties)
    (palette : Palette)
    (above : LightLayer) : LightLayer × LightSlab :=
  if palette.single? = some air then (above, above.columns)
  else
    let layers := (descend properties palette 16 above).toArray
    (layers.back?.getD above, slabOfLayers layers)

/--
Light going straight down through a stack of sections: the layer below and the
slabs.
-/
def descendSections
    (properties : LightProperties)
    (sections : List Palette) : LightLayer × List LightSlab :=
  sections.foldr (fun palette (above, slabs) =>
    let (below, slab) := descendSection properties palette above
    (below, slab :: slabs)) (LightLayer.full, [])

/-- Sky light before any of it spreads to the side. -/
def LightData.straightDown
    (properties : LightProperties)
    (sections : Array Palette) : LightData :=
  let (below, slabs) := descendSections properties sections.toList
  ⟨(((below.columns :: slabs) ++ [LightSlab.full]).map some).toArray⟩

/--
Whether a cell is more than one level brighter than one beside it in its
section.
-/
def hasDarkerSide (slab : LightSlab) (voxel : Voxel) (level : Nat) : Bool :=
  (0 < voxel.x && slab.get (voxel.index - 1) + 1 < level) ||
  (voxel.x < 15 && slab.get (voxel.index + 1) + 1 < level) ||
  (0 < voxel.z && slab.get (voxel.index - 16) + 1 < level) ||
  (voxel.z < 15 && slab.get (voxel.index + 16) + 1 < level)

/-- The cells of a section from which light can spread to the side. -/
def brightEdges (slab : LightSlab) (slot : Nat) : List Voxel :=
  if slab.isUniform then []
  else
    (Voxel.ofSection slot).filter fun voxel =>
      let level := slab.get voxel.index
      1 < level && hasDarkerSide slab voxel level

/--
Lets the cells from which light can spread join the queue, the lowest section
first.
-/
def Flood.pushBrightEdges (flood : Flood) (count : Nat) : Flood :=
  Nat.fold count (fun slot _ flood =>
    match flood.light.slab? (slot + 1) with
    | some slab => (brightEdges slab slot).foldl push flood
    | none => flood) flood

/-- The sky light of a column. -/
def LightInput.skyLight
    (properties : LightProperties)
    (input : LightInput) : LightData :=
  let neighbors :=
    input.neighborLight.map fun light => light.map ColumnLight.sky
  let start := Flood.still (.straightDown properties input.sections)
  let lit := start.inject properties input.sections neighbors
  (lit.pushBrightEdges input.sections.size).settle properties input.sections

end VoxelRelay
