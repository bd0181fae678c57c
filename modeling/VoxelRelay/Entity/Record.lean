import VoxelRelay.Entity.Basic
import VoxelRelay.Json.Encode
import VoxelRelay.Json.Reader

/-!
# Positions and block entities as records

Positions and block entities are written as objects with one field a
component.  Reading accepts the fields in any order and passes over others,
whatever their form, but refuses a field that is missing or given twice; an
array of exactly the components in order is accepted as well.  Integers have
to fit their range.
-/

namespace VoxelRelay

namespace Json.Form

/-- An integer between two bounds. -/
def integerIn? (low high : Int) : Form → Option Int
  | number (some (.integer value)) =>
      if low ≤ value ∧ value ≤ high then some value else none
  | _ => none

/-- A signed 32-bit integer. -/
def int32? (form : Form) : Option Int32 :=
  (form.integerIn? Int32.minValue.toInt Int32.maxValue.toInt).map Int32.ofInt

/-- A signed 16-bit integer. -/
def int16? (form : Form) : Option Int16 :=
  (form.integerIn? Int16.minValue.toInt Int16.maxValue.toInt).map Int16.ofInt

/-- An unsigned 32-bit integer. -/
def uint32? (form : Form) : Option UInt32 :=
  (form.integerIn? 0 (UInt32.size - 1)).map fun number =>
    number.toNat.toUInt32

/-- An unsigned 8-bit integer. -/
def uint8? (form : Form) : Option UInt8 :=
  (form.integerIn? 0 (UInt8.size - 1)).map fun number => number.toNat.toUInt8

/--
A payload: any value that nests within what its record leaves of the depth.
-/
def payload? (form : Form) : Option Json :=
  (form.value? (maxDepth - 1)).map normalize

/--
The component of a record by name: absent, given once, or (refused) given
twice.
-/
def component?
    (fields : List (String × Form))
    (name : String) : Option (Option Form) :=
  match fields.filter (·.1 == name) with
  | [] => some none
  | [(_, form)] => some (some form)
  | _ => none

/--
The components of a record in the order of the given names; all its names have
to be sound.
-/
def components? (names : List String) : Form → Option (List (Option Form))
  | object fields => do
      let named ← fields.mapM fun (name, form) => name.map (·, form)
      names.mapM (component? named)
  | array items =>
      if items.length = names.length then some (items.map some) else none
  | _ => none

end Json.Form

/-! ## Positions -/

/-- Reads a column position. -/
def ColumnPos.ofForm? (form : Json.Form) : Option ColumnPos := do
  match ← form.components? ["x", "z"] with
  | [some x, some z] => return ⟨← x.int32?, ← z.int32?⟩
  | _ => none

/-- Writes a column position. -/
def ColumnPos.toRecord (pos : ColumnPos) : Json :=
  .object [Json.entry "x" pos.x, Json.entry "z" pos.z]

/-- Reads a section position. -/
def SectionPos.ofForm? (form : Json.Form) : Option SectionPos := do
  match ← form.components? ["x", "y", "z"] with
  | [some x, some y, some z] => return ⟨← x.int32?, ← y.int32?, ← z.int32?⟩
  | _ => none

/-- Writes a section position. -/
def SectionPos.toRecord (pos : SectionPos) : Json :=
  .object [Json.entry "x" pos.x, Json.entry "y" pos.y, Json.entry "z" pos.z]

/-- Reads a block position. -/
def BlockPos.ofForm? (form : Json.Form) : Option BlockPos := do
  match ← form.components? ["x", "y", "z"] with
  | [some x, some y, some z] => return ⟨← x.int32?, ← y.int32?, ← z.int32?⟩
  | _ => none

/-- Writes a block position. -/
def BlockPos.toRecord (pos : BlockPos) : Json :=
  .object [Json.entry "x" pos.x, Json.entry "y" pos.y, Json.entry "z" pos.z]

/-! ## Block entities -/

/-- Reads a block entity of the source. -/
def SourceEntity.ofForm? (form : Json.Form) : Option SourceEntity := do
  match ← form.components? ["position", "data"] with
  | [some position, some data] =>
      return ⟨← BlockPos.ofForm? position, ← data.payload?⟩
  | _ => none

instance : ToJson SourceEntity := ⟨fun entity =>
  .object
    [Json.entry "position" entity.position.toRecord,
      Json.entry "data" entity.data]⟩

/--
Reads the state override of a block entity, null or missing when there is
none.
-/
def TargetEntity.overrideOfForm? : Option Json.Form → Option (Option UInt32)
  | none | some .null => some none
  | some form => form.uint32?.map some

/-- Reads a block entity of the destination. -/
def TargetEntity.ofForm? (form : Json.Form) : Option TargetEntity := do
  match ← form.components?
      ["packed_xz", "y", "type_id", "data", "block_state_override"] with
  | [some packed, some y, some typeId, some data, state] =>
      return {
        packedXZ := ← packed.uint8?
        y := ← y.int16?
        typeId := ← typeId.int32?
        data := ← data.payload?
        stateOverride := ← overrideOfForm? state }
  | _ => none

instance : ToJson TargetEntity := ⟨fun entity =>
  .object [Json.entry "packed_xz" entity.packedXZ, Json.entry "y" entity.y,
    Json.entry "type_id" entity.typeId, Json.entry "data" entity.data,
    Json.entry "block_state_override" entity.stateOverride]⟩

end VoxelRelay
