import VoxelRelay.Json.Encode
import VoxelRelay.Mapping
import VoxelRelay.Random
import VoxelRelay.Section

/-!
# A made-up world

A flat world to try the store with: stone below, three layers of dirt and one
of grass above, and in every column a pond, a torch and a chest, where chance
has put them.  A section is made from the seed of the world and its position
alone.
-/

namespace VoxelRelay.Terrain

/-! ## Blocks -/

/-- The source block of stone. -/
def stone : UInt32 := 1

/-- The source block of dirt. -/
def dirt : UInt32 := 2

/-- The source block of grass. -/
def grass : UInt32 := 3

/-- The source block of water. -/
def water : UInt32 := 4

/-- The source block of a torch. -/
def torch : UInt32 := 5

/-- The source block of a chest. -/
def chest : UInt32 := 6

/-- The source block of glass. -/
def glass : UInt32 := 7

/-- The identifier that stone had before. -/
def formerStone : UInt32 := 0x10001

/-- The biome of the whole world. -/
def plains : UInt32 := 1

/-- The registrations by which the world is shown. -/
def registrations : List MappingTable.Registration :=
  [.block stone 1 none, .block dirt 10 none, .block grass 9 none,
    .block water 86 waterTag, .block torch 190 none, .block chest 250 "chest",
    .block glass 300 none, .legacy formerStone stone,
    .state 1 .opaqueSolid, .state 9 .opaqueSolid, .state 10 .opaqueSolid,
    .state 86 { BlockState.transparent with filter := 2 },
    .state 190 (.emitter 14),
    .state 250
      { BlockState.transparent with
        motionBlocking := true, waterlogged := some 251 },
    .state 300 { BlockState.transparent with motionBlocking := true },
    .biome plains 5, .fallbackBiome 0, .entity "chest" 2]

/-- The table by which the world is shown. -/
def table : Except MappingError MappingTable :=
  registrations.foldlM MappingTable.register (.create air stone)

/-! ## Heights -/

/-- The height of the grass. -/
def surface : Int := -4

/-- The thickness of the dirt. -/
def dirtDepth : Int := 3

/--
The depth below the grass from which all is stone of the former identifier.
-/
def deep : Int := 32

/-- The block at a height, where there is any. -/
def blockAt? (height : Int) : Option UInt32 :=
  if height = surface then some grass
  else if surface - dirtDepth ≤ height ∧ height < surface then some dirt
  else if height < surface then some stone
  else none

/--
The blocks of a section whose lowest cells lie at a height, by height alone.
-/
def strata (bottom : Int) : Palette :=
  Nat.fold 16 (fun y _ blocks =>
    match blockAt? (bottom + y) with
    | some id => blocks.fillBox 0 y 0 15 y 15 id
    | none => blocks) (.blocks air)

/-! ## Sections -/

/-- The generator for a section. -/
def generator (seed : UInt64) (pos : SectionPos) : Generator :=
  let word (coordinate : Int32) : UInt64 := coordinate.toInt64.toUInt64
  .ofSeed
    (seed ^^^ (word pos.x * 0x9e3779b97f4a7c15) ^^^
      (word pos.z * 0xc2b2ae3d27d4eb4f) ^^^
    word pos.y)

/-- The record of a chest that holds some torches. -/
def chestEntity (position : BlockPos) (count : Nat) : SourceEntity where
  position := position
  data := .object [
    Json.entry "Items"
    [Json.object [Json.entry "Count" count, Json.entry "Name" "torch"]],
    Json.entry "id" "Chest"]

/--
Puts pond, torch and chest into a section that holds the surface at the layer
`y`.  The pond is three blocks square.  The torch and the chest stand one
layer higher, so there has to be one; a chest may stand in water.
-/
def furnish
    (pos : SectionPos)
    (blocks : Palette)
    (y : Nat) : StateM Generator (Array Palette × List SourceEntity) := do
  let pondX ← Generator.between 2 12
  let pondZ ← Generator.between 2 12
  let blocks := blocks.fillBox pondX y pondZ (pondX + 2) y (pondZ + 2) water
  if 15 ≤ y then return (#[blocks, .blocks air], [])
  let torchX ← Generator.between 0 16
  let torchZ ← Generator.between 0 16
  let blocks := blocks.setIdAt torchX (y + 1) torchZ torch
  let chestX ← Generator.between 0 16
  let chestZ ← Generator.between 0 16
  let blocks := blocks.setIdAt chestX (y + 1) chestZ chest
  let overlay : Palette := .blocks air
  let flooded ← Generator.oneInFour
  let overlay :=
    if flooded then overlay.setIdAt chestX (y + 1) chestZ water else overlay
  let position : BlockPos :=
    ⟨pos.x * 16 + .ofNat chestX, pos.y * 16 + .ofNat (y + 1),
      pos.z * 16 + .ofNat chestZ⟩
  return (#[blocks, overlay],
    [chestEntity position (← Generator.betweenNarrow 1 64)])

/-- The content of a section with its records. -/
def sectionAt
    (seed : UInt64)
    (pos : SectionPos) : Section × List SourceEntity :=
  let bottom := pos.y.toInt * 16
  let uniform (id : UInt32) : Section × List SourceEntity :=
    (.ofLayers #[.blocks id] (some (.blocks plains)), [])
  if surface < bottom then uniform air
  else if bottom + 15 < surface - deep then uniform formerStone
  else
    let blocks := strata bottom
    let height := (surface - bottom).toNat
    let (layers, entities) :=
      if height < 16 then
        ((furnish pos blocks height).run (generator seed pos)).1
      else (#[blocks], [])
    (.ofLayers layers (some (.blocks plains)), entities)

/-- A block of glass placed above the spawn while a session runs. -/
def roof : BlockPos × UInt32 := (⟨8, .ofInt (surface + 4), 8⟩, glass)

end VoxelRelay.Terrain
