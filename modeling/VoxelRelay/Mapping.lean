import Std.Data.HashMap
import VoxelRelay.Entity.Basic

/-!
# Mapping tables

A mapping table says how blocks and biomes of the source are shown at the
destination, how the destination's block states treat light and movement, and
which blocks own a block entity there.  Identifiers that the table does not
know are first looked up among the legacy aliases.

A table is built by registrations; `register` refuses a second entry for what
may have only one.
-/

namespace VoxelRelay

/-- The destination block state of air. -/
def air : UInt32 := 0

/--
The tag of source blocks that are water; in an overlay they waterlog the block
below.
-/
def waterTag : String := "water"

/-- What a block state does to light. -/
structure LightProperties where
  /-- The light lost on the way through a block state. -/
  filter : UInt32 → Nat
  /-- The light that a block state gives off. -/
  emission : UInt32 → Nat

/-- Light and shape of one destination block state. -/
structure BlockState where
  filter : Nat
  emission : Nat
  motionBlocking : Bool
  waterlogged : Option UInt32
deriving DecidableEq, Repr

namespace BlockState

/-- A state that does nothing, as air. -/
def transparent : BlockState := ⟨0, 0, false, none⟩

instance : Inhabited BlockState := ⟨transparent⟩

/-- A solid state that lets no light through. -/
def opaqueSolid : BlockState := ⟨15, 0, true, none⟩

/-- A transparent state that gives off light of at most level 15. -/
def emitter (level : Nat) : BlockState :=
  { transparent with emission := min level 15 }

end BlockState

/-- How a source block is shown. -/
structure SourceBlock where
  destination : UInt32
  tag : Option String
deriving DecidableEq, Repr, Inhabited

/-- A second entry for what may have only one. -/
inductive MappingError where
  | duplicateSource (id : UInt32)
  | duplicateDestination (id : UInt32)
  | duplicateLegacy (id : UInt32)
  | duplicateBiome (id : UInt32)
deriving DecidableEq, Repr

/-- The wording of a mapping error. -/
def MappingError.message : MappingError → String
  | duplicateSource id =>
      "source id " ++ toString id.toNat ++ " is already mapped"
  | duplicateDestination id =>
      "destination id " ++ toString id.toNat ++ " is already registered"
  | duplicateLegacy id =>
      "legacy id " ++ toString id.toNat ++ " is already aliased"
  | duplicateBiome id =>
      "source biome " ++ toString id.toNat ++ " is already mapped"

/-- A mapping table. -/
structure MappingTable where
  /-- The source block of air. -/
  sourceAir : UInt32
  /-- The source block that stands in for unknown ones. -/
  replacement : UInt32
  blocks : Std.HashMap UInt32 SourceBlock
  legacy : Std.HashMap UInt32 UInt32
  states : Std.HashMap UInt32 BlockState
  biomes : Std.HashMap UInt32 UInt32
  fallbackBiome : UInt32
  entityTypes : Std.HashMap String Int32
  entityStates : Std.HashMap String UInt32

namespace MappingTable

/-- A table in which source air is shown as air, and nothing else is known. -/
def create (sourceAir replacement : UInt32) : MappingTable where
  sourceAir := sourceAir
  replacement := replacement
  blocks := (∅ : Std.HashMap UInt32 SourceBlock).insert sourceAir ⟨air, none⟩
  legacy := ∅
  states := (∅ : Std.HashMap UInt32 BlockState).insert air .transparent
  biomes := ∅
  fallbackBiome := 0
  entityTypes := ∅
  entityStates := ∅

/-! ## Registration -/

/-- One entry to add to a table. -/
inductive Registration where
  /-- Shows a source block as a destination state. -/
  | block (source destination : UInt32) (tag : Option String)
  /-- Describes a destination state; that of air may be described anew. -/
  | state (id : UInt32) (description : BlockState)
  /-- Lets a legacy identifier stand for a current one. -/
  | legacy (former current : UInt32)
  /-- Shows a source biome as a destination biome. -/
  | biome (source destination : UInt32)
  /-- Sets the biome shown for unknown ones. -/
  | fallbackBiome (id : UInt32)
  /-- Gives blocks with a tag a block entity of a type. -/
  | entity (tag : String) (typeId : Int32)
  /-- Shows blocks with a tag that have a record as another state. -/
  | entityState (tag : String) (state : UInt32)
deriving Repr

/-- Adds an entry to a table. -/
def register (table : MappingTable) :
    Registration → Except MappingError MappingTable
  | .block source destination tag =>
      if table.blocks.contains source then .error (.duplicateSource source)
      else
        .ok
          { table with
            blocks := table.blocks.insert source ⟨destination, tag⟩ }
  | .state id description =>
      if id ≠ air ∧ table.states.contains id then
        .error (.duplicateDestination id)
      else .ok { table with states := table.states.insert id description }
  | .legacy former current =>
      if table.legacy.contains former then .error (.duplicateLegacy former)
      else .ok { table with legacy := table.legacy.insert former current }
  | .biome source destination =>
      if table.biomes.contains source then .error (.duplicateBiome source)
      else .ok { table with biomes := table.biomes.insert source destination }
  | .fallbackBiome id => .ok { table with fallbackBiome := id }
  | .entity tag typeId =>
      .ok { table with entityTypes := table.entityTypes.insert tag typeId }
  | .entityState tag state =>
      .ok { table with entityStates := table.entityStates.insert tag state }

/-! ## Look-up -/

/--
The identifier that stands for a source block today: its own if known, else
its alias.
-/
def normalize? (table : MappingTable) (id : UInt32) : Option UInt32 :=
  if table.blocks.contains id then some id else table.legacy[id]?

/-- The destination state of a source block. -/
def destination? (table : MappingTable) (source : UInt32) : Option UInt32 :=
  table.blocks[source]?.map (·.destination)

/-- The tag of a source block. -/
def tag? (table : MappingTable) (source : UInt32) : Option String :=
  table.blocks[source]?.bind (·.tag)

/-- The description of a destination state; an unknown one is like air. -/
def state (table : MappingTable) (id : UInt32) : BlockState :=
  table.states.getD id .transparent

/-- The waterlogged form of a destination state. -/
def waterlogged?
    (table : MappingTable)
    (destination : UInt32) : Option UInt32 :=
  table.states[destination]?.bind (·.waterlogged)

/-- The destination biome of a source biome. -/
def biome?
    (table : MappingTable)
    (source : UInt32) : Option UInt32 := table.biomes[source]?

/-- Whether a destination state stops movement. -/
def isMotionBlocking (table : MappingTable) (destination : UInt32) : Bool :=
  (table.state destination).motionBlocking

/-- The block-entity type that blocks with a tag own. -/
def entityType?
    (table : MappingTable)
    (tag : String) : Option Int32 := table.entityTypes[tag]?

/-- Whether blocks with a tag own a block entity. -/
def ownsEntity
    (table : MappingTable)
    (tag : String) : Bool := table.entityTypes.contains tag

/-- What the destination states do to light. -/
def light (table : MappingTable) : LightProperties where
  filter id := (table.state id).filter
  emission id := (table.state id).emission

/--
Converts a record for a source block; `none` when such blocks own no block
entity.
-/
def convertEntity?
    (table : MappingTable)
    (source : UInt32)
    (entity : SourceEntity) : Option TargetEntity := do
  let tag ← table.tag? source
  let typeId ← table.entityType? tag
  return { TargetEntity.empty entity.position typeId with
    data := entity.data
    stateOverride := table.entityStates[tag]? }

end MappingTable

end VoxelRelay
