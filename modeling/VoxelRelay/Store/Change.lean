import VoxelRelay.Store.Window

/-!
# Block changes

A block change is written into its section at once, or logged while the
section awaits its content.  The block entity record at the position goes when
the tag of the block changes in any layer, and the client is told to detach
what hangs on the block.
-/

namespace VoxelRelay

/-- What became of a block change. -/
inductive BlockChange where
  /-- No loaded section holds the position. -/
  | unloaded
  /-- The section awaits its content; the change was logged. -/
  | deferred
  /-- No section has such a layer. -/
  | invalidLayer (layer : Nat)
  /-- The change was made; what the client is to show in its place. -/
  | applied (destination : UInt32) (entity : Option TargetEntity)

namespace Store

/-- Changes the section at a position, if it is loaded. -/
def modifySection
    (store : Store)
    (pos : SectionPos)
    (change : Section → Section) : Store :=
  match store.slot? pos.y with
  | some slot => store.modifyColumn pos.column (·.modifySection slot change)
  | none => store

/--
The block entity to show for a changed block, and the state it may put in
place.
-/
def changedEntity
    (converter : Converter)
    (column : Column)
    (pos : BlockPos)
    (source destination : UInt32) : UInt32 × Option TargetEntity :=
  match converter.ownerTag? source with
  | none => (destination, none)
  | some tag =>
      match column.entityAt? pos with
      | some record =>
          match converter.entities.convertEntity? source record with
          | some converted =>
              (converted.stateOverride.getD destination,
                if converted.hasData then some converted else none)
          | none => (destination, none)
      | none =>
          (destination,
            (converter.table.entityType? tag).map (TargetEntity.empty pos ·))

/-- Applies a block change to a section whose content is there. -/
def applyChange
    (store : Store)
    (pos : BlockPos)
    (layer : Nat)
    (source : UInt32)
    (content : Section) : Outcome BlockChange :=
  let table := store.table
  let (x, y, z) := pos.inSection
  match content.setBlock layer x y z table.sourceAir source with
  | none => .silent store (.invalidLayer layer)
  | some changed =>
      let previous := (content.blockAt? layer x y z).getD table.sourceAir
      let written := store.modifySection pos.sectionPos fun _ => changed
      let retagged := table.tag? previous != table.tag? source
      let cleared :=
        if retagged then
          written.modifyColumn pos.column (·.removeEntityAt pos) else written
      let destination := changed.destinationState table x y z
      let (shown, entity) :=
        match cleared.column? pos.column with
        | some column =>
            if previous = source then (destination, none)
            else changedEntity store.converter column pos source destination
        | none => (destination, none)
      { store := cleared
        value := .applied shown entity
        messages := if retagged then [.detach (.block pos)] else []
        warnings := changed.destinationWarnings table x y z }

/-- Takes in a change of one source block. -/
def changeBlock
    (store : Store)
    (pos : BlockPos)
    (layer : Nat)
    (source : UInt32) : Outcome BlockChange :=
  if maxLayers ≤ layer then
    ⟨store, .invalidLayer layer, [], [.unsupportedLayer]⟩
  else
    match store.section? pos.sectionPos with
    | none => .silent store .unloaded
    | some content =>
        let (x, y, z) := pos.inSection
        match content.bufferEdit ⟨x, y, z, layer, source⟩ with
        | some logged =>
            .silent (store.modifySection pos.sectionPos fun _ => logged)
              .deferred
        | none => store.applyChange pos layer source content

end Store

end VoxelRelay
