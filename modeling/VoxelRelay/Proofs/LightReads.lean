import VoxelRelay.Proofs.CanonicalLight

/-!
# What light is read from

Where air filters nothing, the light of a column is determined by the blocks in
its cells and by the levels that its neighbors have on the faces they share
with it.  In what form a section stores its cells does not matter.  Nor do the
neighbors' blocks, how bright it is further inside them, below their bottom and
above their top, and how many slabs they have: a face without a slab is dark.
-/

namespace VoxelRelay

/-! ## Faces of the neighbors -/

/--
The level at a place along a face of a column that is lit; none without its
light.
-/
def faceLevel
    (light : Option LightData)
    (face : Direction)
    (slot a y : Nat) : Nat :=
  match light with
  | some light =>
      light.level slot (cellIndex (faceCell face a).1 y (faceCell face a).2)
  | none => 0

/--
What comes in over the border is read on the neighbor's face, one slab up.
-/
theorem borderLevel_faceVoxel
    (neighbors : Sides (Option LightData))
    (direction : Direction)
    (slot a y : Nat) :
    borderLevel neighbors (Flood.faceVoxel direction slot a y) direction =
      faceLevel (neighbors.get direction) direction.opposite
        (slot + 1) a y := by
  rw [borderLevel, if_pos (Flood.onFace_faceVoxel direction slot a y),
    Flood.faceVoxel_across]
  rfl

/--
Neighbors that look the same across the border of a column of `count`
sections.
-/
def SameFaces
    (count : Nat)
    (first second : Sides (Option LightData)) : Prop :=
  ∀ direction slot a y, 0 < slot → slot ≤ count → a < 16 → y < 16 →
    faceLevel (first.get direction) direction.opposite slot a y =
      faceLevel (second.get direction) direction.opposite slot a y

theorem SameFaces.borderLevel_eq
    {count : Nat}
    {first second : Sides (Option LightData)}
    (same : SameFaces count first second)
    {voxel : Voxel}
    (inRange : voxel.InRange count)
    (direction : Direction) :
    borderLevel first voxel direction =
      borderLevel second voxel direction := by
  by_cases onFace : voxel.OnFace direction
  · obtain ⟨a, aLt, place⟩ := Flood.exists_faceVoxel_eq inRange onFace
    rw [place, borderLevel_faceVoxel, borderLevel_faceVoxel]
    exact same direction _ a _ (Nat.succ_pos _) inRange.1 aLt inRange.2.2.1
  · rw [borderLevel, borderLevel, if_neg onFace, if_neg onFace]

/-! ## Columns that read the same -/

/--
Where air filters nothing, what light loses on its way down is a matter of the
cells alone.
-/
theorem stackLoss_eq_filter
    {properties : LightProperties}
    (clear : properties.filter air = 0)
    (sections : Array Palette)
    (place height : Nat) :
    stackLoss properties sections.toList place height =
      properties.filter
        (blockOf sections
          ⟨height / 16, place % 16, height % 16, place / 16⟩) := by
  rw [stackLoss, Array.getElem?_toList, blockOf]
  cases sections[height / 16]? with
  | none => exact clear.symm
  | some palette => exact layerLoss_eq clear palette _ _

namespace LightInput

variable {properties : LightProperties} {first second : LightInput}

/--
Two columns of the same cells whose neighbors look the same across the border.
-/
structure SameReads (first second : LightInput) : Prop where
  size_eq : first.sections.size = second.sections.size
  block_eq : ∀ voxel, voxel.InRange first.sections.size →
    blockOf first.sections voxel = blockOf second.sections voxel
  sky_eq : SameFaces first.sections.size first.neighborSky second.neighborSky
  border_eq :
    SameFaces first.sections.size first.neighborBlock second.neighborBlock

theorem SameReads.sameSources
    (same : first.SameReads second)
    (clear : properties.filter air = 0) :
    SameSources properties first second where
  size_eq := same.size_eq
  block_eq := same.block_eq
  loss_eq := by
    intro place height inside low
    have inRange :
        (Voxel.mk (height / 16) (place % 16) (height % 16)
          (place / 16)).InRange
        first.sections.size := by
      refine ⟨?_, ?_, ?_, ?_⟩ <;> simp only <;> omega
    rw [stackLoss_eq_filter clear, stackLoss_eq_filter clear,
      same.block_eq _ inRange]
  sky_eq :=
    fun _ inRange direction => same.sky_eq.borderLevel_eq inRange direction
  border_eq :=
    fun _ inRange direction => same.border_eq.borderLevel_eq inRange direction

/--
Light depends on the cells of a column and on the faces across its border
only.
-/
theorem light_eq_of_sameReads
    (clear : properties.filter air = 0)
    (firstCubes : ∀ palette ∈ first.sections, palette.SectionCube)
    (secondCubes : ∀ palette ∈ second.sections, palette.SectionCube)
    (same : first.SameReads second) :
    first.light properties = second.light properties :=
  (same.sameSources clear).light_eq firstCubes secondCubes

/-! ## A neighbor that is lit inside -/

/-- A slab with light in one cell, which is on no face. -/
def litInside : LightSlab := LightSlab.dark.set (cellIndex 3 8 8) 9

/--
Light below the bottom, within and above the top, but none on a face of the
column.
-/
def brightInside : LightData :=
  ⟨#[some .full, some litInside, some .full, some .full]⟩

theorem faceLevel_brightInside
    (face : Direction)
    {slot a : Nat}
    (positive : 0 < slot)
    (low : slot ≤ 1)
    (aLt : a < 16)
    (y : Nat) :
    faceLevel (some brightInside) face slot a y = 0 := by
  obtain rfl : slot = 1 := by omega
  have here : brightInside.slab? 1 = some litInside := rfl
  rw [faceLevel, LightData.level_eq_of_slab? here, litInside,
    LightSlab.get_set _ (by decide), LightSlab.get_dark, if_neg]
  cases face <;> simp only [faceCell, cellIndex] <;> omega

/--
A lamp in the air, stored with a spare entry, east of a column that is lit
inside.
-/
def lampBesideBright : LightInput where
  sections := #[(lampAt 8 8 8).extended 3]
  neighborSections := .ofFn fun _ => some #[.blocks 2]
  neighborLight := .ofFn fun direction =>
    if direction = .west then some ⟨brightInside, brightInside⟩ else none

theorem sameFaces_brightInside
    {side : ColumnLight → LightData}
    (bright : side ⟨brightInside, brightInside⟩ = brightInside) :
    SameFaces 1
      ((isolated #[lampAt 8 8 8]).neighborLight.map fun light =>
        light.map side)
          (lampBesideBright.neighborLight.map fun light =>
            light.map side) := by
  intro direction slot a y positive low aLt _
  cases direction with
  | west =>
      change 0 = faceLevel (some (side ⟨brightInside, brightInside⟩))
        _ slot a y
      rw [bright, faceLevel_brightInside _ positive low aLt]
  | _ => rfl

theorem sameReads_lampBesideBright :
    (isolated #[lampAt 8 8 8]).SameReads lampBesideBright where
  size_eq := calc
    (isolated #[lampAt 8 8 8]).sections.size = 1 := rfl
    _ = lampBesideBright.sections.size := rfl
  block_eq := by
    have cube : (lampAt 8 8 8).SectionCube :=
      sectionCube_lampAt (by decide) (by decide) (by decide)
    rintro ⟨slot, x, y, z⟩ ⟨slotLt, xLt, yLt, zLt⟩
    obtain rfl : slot = 0 := Nat.lt_one_iff.1 slotLt
    change (lampAt 8 8 8).idAt x y z = ((lampAt 8 8 8).extended 3).idAt x y z
    rw [Palette.idAt, Palette.idAt, (cube.extended 3).cell_eq, ← cube.cell_eq,
      cube.toWellFormed.idAtCell_extended 3 (cube.cell_lt xLt yLt zLt)]
  sky_eq := sameFaces_brightInside rfl
  border_eq := sameFaces_brightInside rfl

theorem light_lampBesideBright :
    lampProperties.filter air = 0 ∧
      (∀ palette ∈ (isolated #[lampAt 8 8 8]).sections, palette.SectionCube) ∧
      (∀ palette ∈ lampBesideBright.sections, palette.SectionCube) ∧
      (isolated #[lampAt 8 8 8]).SameReads lampBesideBright ∧
      (isolated #[lampAt 8 8 8]).light lampProperties =
        lampBesideBright.light lampProperties := by
  have cube : (lampAt 8 8 8).SectionCube :=
    sectionCube_lampAt (by decide) (by decide) (by decide)
  have plain : ∀ palette ∈ (isolated #[lampAt 8 8 8]).sections,
      palette.SectionCube :=
    cube.forall_mem_singleton
  have spare : ∀ palette ∈ lampBesideBright.sections, palette.SectionCube :=
    (cube.extended 3).forall_mem_singleton
  exact ⟨rfl, plain, spare, sameReads_lampBesideBright,
    light_eq_of_sameReads rfl plain spare sameReads_lampBesideBright⟩

end LightInput

end VoxelRelay
