/-!
# Warnings

What may be worth a remark while columns are converted and updates come in,
without being an error.
-/

namespace VoxelRelay

/-- Something worth a remark. -/
inductive Warning where
  /-- A source block that has no destination state. -/
  | unmappedBlock (source : UInt32)
  /-- A state below water that has no waterlogged form. -/
  | noWaterloggedForm (id : UInt32)
  /-- A block in an overlay that is not water. -/
  | overlayNotWater (primary overlay : UInt32)
  /-- A source biome that has no destination biome. -/
  | unmappedBiome (source : UInt32)
  /-- A source block that is known under no name. -/
  | unknownBlock (id : UInt32)
  /-- A column outside the render window, but near the player. -/
  | columnOutsideRender
  /-- A section that was not asked for. -/
  | sectionNotRequested
  /-- A section of a column that is not loaded. -/
  | sectionNotLoaded
  /-- A section above or below the world. -/
  | sectionOutsideWorld
  /-- A section of the wrong shape. -/
  | sectionMalformed
  /-- A block change in a layer that cannot exist. -/
  | unsupportedLayer
  /-- A change of the world's bounds while it runs. -/
  | geometryChanged
deriving DecidableEq, Repr

/-- The wording of a warning. -/
def Warning.message : Warning → String
  | unmappedBlock _ => "missing block state mapping"
  | noWaterloggedForm _ => "missing waterlogged block state"
  | overlayNotWater .. => "overlay layer holds a non-water block"
  | unmappedBiome _ => "missing biome mapping"
  | unknownBlock _ => "missing source block state"
  | columnOutsideRender =>
      "received chunk outside of render distance, but within load distance"
  | sectionNotRequested => "received sub chunk that was not requested"
  | sectionNotLoaded => "received sub chunk for unloaded chunk"
  | sectionOutsideWorld => "received sub chunk outside of the world height"
  | sectionMalformed => "received malformed sub chunk"
  | unsupportedLayer => "block change for unsupported layer"
  | geometryChanged =>
      "World geometry changed on disk; takes effect on restart"

end VoxelRelay
