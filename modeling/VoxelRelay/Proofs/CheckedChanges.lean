import VoxelRelay.Proofs.CellPositions
import VoxelRelay.Proofs.CheckedAccess
import VoxelRelay.Proofs.ShapedColumns

/-!
# Questions and changes within their bounds

What a store is asked about a position, and what is changed there, leads to one
cell of one section: the height selects a slot of the column, and the position
a cell within it.  In the checked forms the slot has to be there in the column,
the layer among those of the section, and the cell in the cube.  They succeed
in a store all of whose columns are in shape and as high as the world, since no
slot is selected past its top.
-/

namespace VoxelRelay

/-! ## Sections -/

namespace Section

/-- The block at a place in a layer, if the section has that layer. -/
def blockAtChecked
    (content : Section)
    (layer x y z : Nat) : Option (Option UInt32) :=
  match content.layer? layer with
  | some palette => (palette.idAtChecked x y z).map some
  | none => some none

/--
Writes one block, creating the layer if need be; `none` when no section may
have it.
-/
def setBlockChecked
    (content : Section)
    (layer x y z : Nat)
    (air id : UInt32) : Option (Option Section) :=
  match content.ensureLayer layer air with
  | some padded => do
      let written ← (← padded.layers[layer]?).setIdAtChecked x y z id
      return some (padded.modifyLayer layer fun _ => written)
  | none => some none

/-- The primary block of a cell, air if the section has no layers. -/
def primaryAtChecked
    (content : Section)
    (table : MappingTable)
    (x y z : Nat) : Option UInt32 :=
  (content.blockAtChecked 0 x y z).map (·.getD table.sourceAir)

/-- Whether a cell holds a block other than air that lies under water. -/
def isUnderWaterChecked
    (content : Section)
    (table : MappingTable)
    (x y z : Nat) : Option Bool := do
  if (← content.primaryAtChecked table x y z) = table.sourceAir then
    return false
  else return (← content.blockAtChecked 1 x y z).any table.isWater

/-- The destination state of a cell. -/
def destinationStateChecked
    (content : Section)
    (table : MappingTable)
    (x y z : Nat) : Option UInt32 := do
  let state := table.destinationOrAir (← content.primaryAtChecked table x y z)
  return if ← content.isUnderWaterChecked table x y z then
    (table.waterlogged? state).getD state else state

/-- The remarks on the conversion of a cell. -/
def destinationWarningsChecked
    (content : Section)
    (table : MappingTable)
    (x y z : Nat) : Option (List Warning) := do
  let source ← content.primaryAtChecked table x y z
  let state := table.destinationOrAir source
  let submerged ← content.isUnderWaterChecked table x y z
  return (if (table.destination? source).isNone then [.unmappedBlock source]
    else []) ++
    (if submerged && (table.waterlogged? state).isNone then
      [.noWaterloggedForm state] else [])

variable
    {content : Section}
    (checked : content.Checked)
    {x y z : Nat}
    (xLt : x < 16)
    (yLt : y < 16)
    (zLt : z < 16)
include checked xLt yLt zLt

theorem blockAtChecked_eq (layer : Nat) :
    content.blockAtChecked layer x y z =
      some (content.blockAt? layer x y z) := by
  rw [blockAtChecked, blockAt?]
  cases found : content.layer? layer with
  | none => rfl
  | some palette =>
      have cube := checked.cube found
      dsimp only
      rw [cube.idAtChecked_eq xLt yLt zLt]
      rfl

/--
A block is written into a layer that is there, whether it was before or not.
-/
theorem setBlockChecked_eq
    (layer : Nat)
    (air id : UInt32) :
    content.setBlockChecked layer x y z air id =
      some (content.setBlock layer x y z air id) := by
  rw [setBlockChecked, setBlock]
  by_cases refused : maxLayers ≤ layer
  · rw [ensureLayer, if_pos refused]
    rfl
  · rw [ensureLayer, if_neg refused]
    have there : layer < (content.padLayers (layer + 1) air).layers.size := by
      simp only [padLayers, Array.size_append, Array.size_replicate]
      omega
    have known := Array.getElem?_eq_getElem there
    have cube :=
      cubes_padLayers checked.cubes (layer + 1) air _
        (Array.getElem_mem there)
    have written : (content.padLayers (layer + 1) air).layers.modify layer
        (fun _ =>
          ((content.padLayers (layer + 1) air).layers[layer]).setIdAt
            x y z id) =
        (content.padLayers (layer + 1) air).layers.modify layer
          (·.setIdAt x y z id) :=
      modify_congr known rfl
    simp only [known, Option.bind_eq_bind, Option.bind_some, Option.map_some,
      cube.setIdAtChecked_eq xLt yLt zLt, modifyLayer, written]
    rfl

variable (table : MappingTable)

theorem primaryAtChecked_eq :
    content.primaryAtChecked table x y z =
      some (content.primaryAt table x y z) := by
  rw [primaryAtChecked, blockAtChecked_eq checked xLt yLt zLt]
  rfl

theorem isUnderWaterChecked_eq :
    content.isUnderWaterChecked table x y z =
      some (content.isUnderWater table x y z) := by
  rw [isUnderWaterChecked, primaryAtChecked_eq checked xLt yLt zLt,
    blockAtChecked_eq checked xLt yLt zLt, isUnderWater]
  simp only [Option.bind_eq_bind, Option.bind_some]
  split
  · next airy => simp [airy]
  · next solid => simp [solid]

theorem destinationStateChecked_eq :
    content.destinationStateChecked table x y z =
      some (content.destinationState table x y z) := by
  rw [destinationStateChecked, primaryAtChecked_eq checked xLt yLt zLt,
    isUnderWaterChecked_eq checked xLt yLt zLt]
  rfl

theorem destinationWarningsChecked_eq :
    content.destinationWarningsChecked table x y z =
      some (content.destinationWarnings table x y z) := by
  rw [destinationWarningsChecked, primaryAtChecked_eq checked xLt yLt zLt,
    isUnderWaterChecked_eq checked xLt yLt zLt]
  rfl

end Section

/-! ## Positions in a store -/

namespace Store

/--
A section of a loaded column within the window, if the column has its slot.
-/
def sectionChecked
    (store : Store)
    (pos : SectionPos) : Option (Option Section) :=
  match store.slot? pos.y with
  | some slot =>
      match store.column? pos.column with
      | some column => (column.section? slot).map some
      | none => some none
  | none => some none

/-- The source block at a position in a layer, air where there is none. -/
def blockAtChecked
    (store : Store)
    (layer : Nat)
    (pos : BlockPos) : Option UInt32 := do
  let (x, y, z) := pos.inSection
  match ← store.sectionChecked pos.sectionPos with
  | some content =>
      return (← content.blockAtChecked layer x y z).getD store.table.sourceAir
  | none => return store.table.sourceAir

/-- The destination state at a position, air where there is no section. -/
def destinationAtChecked
    (store : Store)
    (pos : BlockPos) : Option UInt32 := do
  let (x, y, z) := pos.inSection
  match ← store.sectionChecked pos.sectionPos with
  | some content => content.destinationStateChecked store.table x y z
  | none => return air

/-- The remarks on the destination state at a position. -/
def destinationWarningsChecked
    (store : Store)
    (pos : BlockPos) : Option (List Warning) := do
  let (x, y, z) := pos.inSection
  match ← store.sectionChecked pos.sectionPos with
  | some content => content.destinationWarningsChecked store.table x y z
  | none => return []

/-- Whether the client cannot see the blocks of a position as they are. -/
def isUnseenChecked (store : Store) (pos : BlockPos) : Option Bool := do
  if store.isLoaded pos.column then
    match ← store.sectionChecked pos.sectionPos with
    | some content => return content.isAwaiting || store.isDirty pos.column
    | none => return false
  else return true

/-- Writes a section that is loaded, if its column has its slot. -/
def writeSectionChecked
    (store : Store)
    (pos : SectionPos)
    (content : Section) : Option Store :=
  (store.sectionChecked pos).map fun _ => store.modifySection pos fun _ =>
    content

/-- What comes of a block change whose section is written. -/
def changeOutcome
    (store : Store)
    (pos : BlockPos)
    (source previous : UInt32)
    (written : Store)
    (destination : UInt32)
    (warnings : List Warning) : Outcome BlockChange :=
  let retagged := store.table.tag? previous != store.table.tag? source
  let cleared :=
    if retagged then written.modifyColumn pos.column (·.removeEntityAt pos)
    else written
  let (shown, entity) :=
    match cleared.column? pos.column with
    | some column =>
        if previous = source then (destination, none)
        else changedEntity store.converter column pos source destination
    | none => (destination, none)
  { store := cleared
    value := .applied shown entity
    messages := if retagged then [.detach (.block pos)] else []
    warnings := warnings }

/-- Applies a block change to a section whose content is there. -/
def applyChangeChecked
    (store : Store)
    (pos : BlockPos)
    (layer : Nat)
    (source : UInt32)
    (content : Section) : Option (Outcome BlockChange) := do
  let table := store.table
  let (x, y, z) := pos.inSection
  match ← content.setBlockChecked layer x y z table.sourceAir source with
  | none => return .silent store (.invalidLayer layer)
  | some changed =>
      let previous :=
        (← content.blockAtChecked layer x y z).getD table.sourceAir
      let written ← store.writeSectionChecked pos.sectionPos changed
      let destination ← changed.destinationStateChecked table x y z
      let warnings ← changed.destinationWarningsChecked table x y z
      return store.changeOutcome pos source previous written
        destination warnings

/-- Takes in a change of one source block. -/
def changeBlockChecked
    (store : Store)
    (pos : BlockPos)
    (layer : Nat)
    (source : UInt32) : Option (Outcome BlockChange) := do
  if maxLayers ≤ layer then
    return ⟨store, .invalidLayer layer, [], [.unsupportedLayer]⟩
  else
    match ← store.sectionChecked pos.sectionPos with
    | none => return .silent store .unloaded
    | some content =>
        let (x, y, z) := pos.inSection
        match content.bufferEdit ⟨x, y, z, layer, source⟩ with
        | some logged =>
            return .silent (← store.writeSectionChecked pos.sectionPos logged)
              .deferred
        | none => store.applyChangeChecked pos layer source content

/-- All columns of a store are in shape, and as high as its world. -/
def ColumnsShaped (store : Store) : Prop :=
  ∀ (pos : ColumnPos) (column : Column), store.columns[pos]? = some column →
    column.Shaped store.sectionCount

theorem slot_lt_of_slot?
    {store : Store}
    {sectionY : Int32}
    {slot : Nat}
    (inside : store.slot? sectionY = some slot) :
    slot < store.sectionCount :=
  (slot?_eq_some_iff.1 inside).2

theorem applyChange_of_written
    {store : Store}
    {pos : BlockPos}
    {layer : Nat}
    {source : UInt32}
    {content changed : Section}
    (written : content.setBlock layer pos.inSection.1 pos.inSection.2.1
      pos.inSection.2.2 store.table.sourceAir source = some changed) :
    store.applyChange pos layer source content =
      store.changeOutcome pos source
        ((content.blockAt? layer pos.inSection.1 pos.inSection.2.1
            pos.inSection.2.2).getD
          store.table.sourceAir)
        (store.modifySection pos.sectionPos fun _ => changed)
        (changed.destinationState store.table pos.inSection.1
          pos.inSection.2.1 pos.inSection.2.2)
        (changed.destinationWarnings store.table pos.inSection.1
          pos.inSection.2.1 pos.inSection.2.2) := by
  rw [applyChange]
  simp only [written]
  rfl

namespace ColumnsShaped

variable {store : Store} (shaped : store.ColumnsShaped)
include shaped

theorem section_shaped
    {pos : SectionPos}
    {content : Section}
    (found : store.section? pos = some content) :
    content.Shaped := by
  simp only [section?, Option.bind_eq_bind, Option.bind_eq_some_iff] at found
  obtain ⟨slot, -, column, loaded, there⟩ := found
  exact (shaped pos.column column (columns_of_column? loaded)).section? there

/-- The slot of a position in the world is there in every column. -/
theorem sectionChecked_eq (pos : SectionPos) :
    store.sectionChecked pos = some (store.section? pos) := by
  rw [sectionChecked, section?]
  cases inside : store.slot? pos.y with
  | none => rfl
  | some slot =>
      cases loaded : store.column? pos.column with
      | none => rfl
      | some column =>
          have height :=
            (shaped pos.column column (columns_of_column? loaded)).size_eq
          have there : slot < column.sections.size :=
            height ▸ slot_lt_of_slot? inside
          have known : column.section? slot = some column.sections[slot] :=
            Array.getElem?_eq_getElem there
          simp only [known, Option.map_some, Option.bind_eq_bind,
            Option.bind_some]

theorem blockAtChecked_eq
    (layer : Nat)
    (pos : BlockPos) :
    store.blockAtChecked layer pos = some (store.blockAt layer pos) := by
  rw [blockAtChecked, shaped.sectionChecked_eq, blockAt]
  cases found : store.section? pos.sectionPos with
  | none => rfl
  | some content =>
      have checked := (shaped.section_shaped found).toChecked
      have read :=
        Section.blockAtChecked_eq checked (localCoordinate_lt pos.x)
          (localCoordinate_lt pos.y) (localCoordinate_lt pos.z) layer
      exact congrArg
        (·.bind fun block => some (block.getD store.table.sourceAir)) read

omit shaped in
/--
In a column that is lower than the world a block is answered from past the
top.
-/
example :
    let store : Store := { create .standard bareConverter with
      columns :=
        (∅ : Std.TreeMap ColumnPos Column).insert ⟨0, 0⟩
          (.create ⟨0, 0⟩ 3 3) }
    store.blockAtChecked 0 ⟨1, 2, 3⟩ = none ∧
      store.blockAt 0 ⟨1, 2, 3⟩ = air := by
  decide +kernel

theorem destinationAtChecked_eq (pos : BlockPos) :
    store.destinationAtChecked pos = some (store.destinationAt pos) := by
  rw [destinationAtChecked, shaped.sectionChecked_eq, destinationAt]
  cases found : store.section? pos.sectionPos with
  | none => rfl
  | some content =>
      exact Section.destinationStateChecked_eq
        (shaped.section_shaped found).toChecked (localCoordinate_lt pos.x)
        (localCoordinate_lt pos.y) (localCoordinate_lt pos.z) store.table

theorem destinationWarningsChecked_eq (pos : BlockPos) :
    store.destinationWarningsChecked pos =
      some (store.destinationWarnings pos) := by
  rw [destinationWarningsChecked, shaped.sectionChecked_eq,
    destinationWarnings]
  cases found : store.section? pos.sectionPos with
  | none => rfl
  | some content =>
      exact Section.destinationWarningsChecked_eq
        (shaped.section_shaped found).toChecked (localCoordinate_lt pos.x)
        (localCoordinate_lt pos.y) (localCoordinate_lt pos.z) store.table

theorem isUnseenChecked_eq (pos : BlockPos) :
    store.isUnseenChecked pos = some (store.isUnseen pos) := by
  rw [isUnseenChecked, shaped.sectionChecked_eq, isUnseen]
  split
  · cases store.section? pos.sectionPos <;> rfl
  · rfl

theorem writeSectionChecked_eq
    (pos : SectionPos)
    (content : Section) :
    store.writeSectionChecked pos content =
      some (store.modifySection pos fun _ => content) := by
  rw [writeSectionChecked, shaped.sectionChecked_eq]
  rfl

/--
A change of a block is made in a cell of a layer of a section that are all
there.
-/
theorem applyChangeChecked_eq
    {pos : BlockPos}
    {layer : Nat}
    (few : layer < maxLayers)
    (source : UInt32)
    {content : Section}
    (checked : content.Checked) :
    store.applyChangeChecked pos layer source content =
      some (store.applyChange pos layer source content) := by
  have xLt : pos.inSection.1 < 16 := localCoordinate_lt _
  have yLt : pos.inSection.2.1 < 16 := localCoordinate_lt _
  have zLt : pos.inSection.2.2 < 16 := localCoordinate_lt _
  let update : BlockUpdate := ⟨pos, layer, source⟩
  let changed := content.edited store.table.sourceAir update.edit
  have made :
      content.setBlock layer pos.inSection.1 pos.inSection.2.1
        pos.inSection.2.2 store.table.sourceAir source = some changed :=
    @Section.setBlock_eq_edited update.edit few content store.table.sourceAir
  have after : changed.Checked := checked.edited update.inside_edit _
  rw [applyChange_of_written made, applyChangeChecked]
  simp only [Option.bind_eq_bind, Option.bind_some,
    Section.setBlockChecked_eq checked xLt yLt zLt, made,
    Section.blockAtChecked_eq checked xLt yLt zLt,
    shaped.writeSectionChecked_eq,
    Section.destinationStateChecked_eq after xLt yLt zLt,
    Section.destinationWarningsChecked_eq after xLt yLt zLt]
  rfl

theorem changeBlockChecked_eq
    (pos : BlockPos)
    (layer : Nat)
    (source : UInt32) :
    store.changeBlockChecked pos layer source =
      some (store.changeBlock pos layer source) := by
  rw [changeBlockChecked, changeBlock]
  split
  · rfl
  · next few =>
      rw [shaped.sectionChecked_eq]
      cases found : store.section? pos.sectionPos with
      | none => rfl
      | some content =>
          simp only [Option.bind_eq_bind, Option.bind_some]
          cases content.bufferEdit
              ⟨pos.inSection.1, pos.inSection.2.1, pos.inSection.2.2, layer,
                source⟩ with
          | some logged =>
              dsimp only
              rw [shaped.writeSectionChecked_eq]
              rfl
          | none =>
              exact shaped.applyChangeChecked_eq (Nat.not_le.1 few) source
                (shaped.section_shaped found).toChecked

end ColumnsShaped

end Store

end VoxelRelay
