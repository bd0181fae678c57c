import VoxelRelay.Json.Value

/-!
# Values with a form in the data format

Numbers become numbers, lists and pairs become arrays, and what may be missing
becomes null.
-/

namespace VoxelRelay

/-- Types whose values have a form in the data format. -/
class ToJson (α : Type) where
  /-- The form of a value. -/
  toJson : α → Json

export ToJson (toJson)

instance : ToJson Json := ⟨id⟩
instance : ToJson Nat := ⟨.ofNat⟩
instance : ToJson Int := ⟨.ofInt⟩
instance : ToJson UInt8 := ⟨fun value => .ofNat value.toNat⟩
instance : ToJson UInt16 := ⟨fun value => .ofNat value.toNat⟩
instance : ToJson UInt32 := ⟨fun value => .ofNat value.toNat⟩
instance : ToJson Int16 := ⟨fun value => .ofInt value.toInt⟩
instance : ToJson Int32 := ⟨fun value => .ofInt value.toInt⟩
instance : ToJson Bool := ⟨.bool⟩
instance : ToJson String := ⟨.string⟩
instance : ToJson Unit := ⟨fun _ => .null⟩

instance
    {α : Type}
    [ToJson α] : ToJson (Option α) := ⟨fun value => value.elim .null toJson⟩
instance
    {α : Type}
    [ToJson α] : ToJson (List α) := ⟨fun items => .array (items.map toJson)⟩
instance
    {α : Type}
    [ToJson α] : ToJson (Array α) := ⟨fun items => toJson items.toList⟩

instance {α β : Type} [ToJson α] [ToJson β] : ToJson (α × β) :=
  ⟨fun (first, second) => .array [toJson first, toJson second]⟩

/-- A field of an object. -/
def Json.entry
    {α : Type}
    [ToJson α]
    (name : String)
    (value : α) : String × Json :=
  (name, toJson value)

end VoxelRelay
