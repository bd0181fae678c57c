import VoxelRelay.Light.Data

/-!
# Light as it is sent

Each kind of light is sent in three parts: the set of slots whose slab is
present, the set of slots whose slab is absent, and the present slabs in slot
order.  A set of slots is a list of 64-bit words, slot 0 in the lowest bit of
the first, without zero words at its end.
-/

namespace VoxelRelay

/-- A set of slots as words of 64 bits. -/
structure SlotMask where
  words : Array UInt64
deriving DecidableEq, Repr, Inhabited

namespace SlotMask

/-- The empty set. -/
def empty : SlotMask := ⟨#[]⟩

/-- Adds a slot. -/
def insert (mask : SlotMask) (slot : Nat) : SlotMask :=
  let grown :=
    mask.words ++ Array.replicate (slot / 64 + 1 - mask.words.size) 0
  ⟨grown.modify (slot / 64) (· ||| (1 <<< (slot % 64).toUInt64))⟩

/-- Whether a slot is in the set. -/
def contains (mask : SlotMask) (slot : Nat) : Bool :=
  (mask.words.getD (slot / 64) 0 >>> (slot % 64).toUInt64) &&& 1 == 1

end SlotMask

/-- One kind of light in parts. -/
structure SplitLight where
  present : SlotMask
  absent : SlotMask
  slabs : Array LightSlab
deriving DecidableEq, Repr, Inhabited

/-- Adds the slab of the next slot. -/
def SplitLight.push
    (parts : SplitLight)
    (slot : Nat) : Option LightSlab → SplitLight
  | some slab =>
      { parts with
        present := parts.present.insert slot, slabs := parts.slabs.push slab }
  | none => { parts with absent := parts.absent.insert slot }

/-- Splits one kind of light into its parts. -/
def LightData.split (light : LightData) : SplitLight :=
  (light.slabs.foldl
    (fun (parts, slot) slab => (SplitLight.push parts slot slab, slot + 1))
    (⟨.empty, .empty, #[]⟩, 0)).1

/-- The light of a column as it is sent. -/
structure LightPayload where
  sky : SplitLight
  block : SplitLight
deriving DecidableEq, Repr, Inhabited

/-- The light of a column in the form in which it is sent. -/
def LightPayload.ofLight (light : ColumnLight) : LightPayload :=
  ⟨light.sky.split, light.block.split⟩

end VoxelRelay
