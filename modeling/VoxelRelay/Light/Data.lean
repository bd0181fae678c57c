import VoxelRelay.Light.Slab

/-!
# Light of a column

One kind of light for a whole column: a slab for each section, one below the
bottom and one above the top, the lowest first.  A slab may be absent, which
means that no light is there.  A column has two kinds of light, that of the
sky and that of its blocks.
-/

namespace VoxelRelay

/-- One kind of light for a column of sections. -/
structure LightData where
  slabs : Array (Option LightSlab)
deriving DecidableEq, Repr, Inhabited

namespace LightData

/-- No light for `count` sections. -/
def empty (count : Nat) : LightData := ⟨Array.replicate (count + 2) none⟩

/-- Dark slabs for `count` sections. -/
def dark (count : Nat) : LightData :=
  ⟨Array.replicate (count + 2) (some .dark)⟩

/-- The number of slabs. -/
def size (light : LightData) : Nat := light.slabs.size

/-- The number of sections that the slabs cover. -/
def sectionCount (light : LightData) : Nat := light.size - 2

/-- The slab in a slot, if it is present. -/
def slab? (light : LightData) (slot : Nat) : Option LightSlab :=
  (light.slabs[slot]?).join

/-- The level of a numbered cell; an absent slab holds no light. -/
@[inline]
def level (light : LightData) (slot index : Nat) : Nat :=
  match light.slabs[slot]? with
  | some (some slab) => slab.get index
  | _ => 0

/-- Puts a dark slab into a slot whose slab is absent. -/
@[inline]
def allocate (light : LightData) (slot : Nat) : LightData :=
  ⟨light.slabs.modify slot fun slab => some (slab.getD .dark)⟩

/-- Overwrites the level of a numbered cell, in a dark slab if it was absent. -/
@[inline]
def setLevel (light : LightData) (slot index level : Nat) : LightData :=
  ⟨light.slabs.modify slot fun
    | some slab => some (slab.set index level)
    | none => some (LightSlab.dark.set index level)⟩

/-- Overwrites the level of a numbered cell if its slab is present. -/
def setPresentLevel
    (light : LightData)
    (slot index level : Nat) : LightData :=
  ⟨light.slabs.modify slot (Option.map (·.set index level))⟩

/-- Replaces a slab; `none` when there is no such slot. -/
def setSlab?
    (light : LightData)
    (slot : Nat)
    (slab : Option LightSlab) : Option LightData :=
  if slot < light.size then some
    ⟨light.slabs.setIfInBounds slot slab⟩ else none

/--
Whether two kinds of light differ in their length, the presence of a slab or
any level.
-/
def differs (left right : LightData) : Bool := left != right

end LightData

/-- Sky and block light of a column. -/
structure ColumnLight where
  sky : LightData
  block : LightData
deriving DecidableEq, Repr, Inhabited

/-- Whether the light of a column differs in either kind. -/
def ColumnLight.differs (left right : ColumnLight) : Bool :=
  left.sky.differs right.sky || left.block.differs right.block

end VoxelRelay
