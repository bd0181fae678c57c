import VoxelRelay.Mapping
import VoxelRelay.Section
import VoxelRelay.Warning

/-!
# Converting one cell

The destination state of a cell is that of its block, or air when the block is
unknown.  A block other than air that lies under water is shown in its
waterlogged form, if it has one.
-/

namespace VoxelRelay

namespace MappingTable

/-- The destination state of a source block, air if there is none. -/
def destinationOrAir (table : MappingTable) (source : UInt32) : UInt32 :=
  (table.destination? source).getD air

/-- Whether a source block is water. -/
def isWater (table : MappingTable) (source : UInt32) : Bool :=
  table.tag? source == some waterTag

/-- The identifier that stands for a source block, or the replacement. -/
def normalizeOrReplace (table : MappingTable) (id : UInt32) : UInt32 :=
  (table.normalize? id).getD table.replacement

end MappingTable

namespace Section

/-- The primary block of a cell, air if the section has no layers. -/
def primaryAt
    (content : Section)
    (table : MappingTable)
    (x y z : Nat) : UInt32 :=
  (content.blockAt? 0 x y z).getD table.sourceAir

/-- Whether a cell holds a block other than air that lies under water. -/
def isUnderWater
    (content : Section)
    (table : MappingTable)
    (x y z : Nat) : Bool :=
  content.primaryAt table x y z != table.sourceAir &&
    (content.blockAt? 1 x y z).any table.isWater

/-- The destination state of a cell. -/
def destinationState
    (content : Section)
    (table : MappingTable)
    (x y z : Nat) : UInt32 :=
  let state := table.destinationOrAir (content.primaryAt table x y z)
  if content.isUnderWater table x y z then
    (table.waterlogged? state).getD state else state

/-- The remarks on the conversion of a cell. -/
def destinationWarnings
    (content : Section)
    (table : MappingTable)
    (x y z : Nat) : List Warning :=
  let source := content.primaryAt table x y z
  let state := table.destinationOrAir source
  (if (table.destination? source).isNone then [.unmappedBlock source]
    else []) ++
  (if content.isUnderWater table x y z &&
    (table.waterlogged? state).isNone then
    [.noWaterloggedForm state] else [])

/-- Puts the current identifiers in place of legacy ones in every layer. -/
def normalize (content : Section) (table : MappingTable) : Section :=
  { content with
    layers := content.layers.map (·.mapIds table.normalizeOrReplace) }

/-- The remarks on the table entries that are known under no name. -/
def normalizeWarnings
    (content : Section)
    (table : MappingTable) : List Warning :=
  content.layers.toList.flatMap fun layer =>
    (layer.ids.toList.filter fun id => (table.normalize? id).isNone).map
      .unknownBlock

end Section

end VoxelRelay
