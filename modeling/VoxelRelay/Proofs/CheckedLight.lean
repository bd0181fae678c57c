import VoxelRelay.Proofs.BlockLight
import VoxelRelay.Proofs.CachedLight
import VoxelRelay.Proofs.CheckedAccess
import VoxelRelay.Proofs.SkyLight

/-!
# Light within its bounds

Light is read and written cell by cell, in the slabs of a column and on the
faces of its neighbors.  The checked forms of these computations make each
access only if the cell lies in its section, the section in the stack and the
slab among those of the column.  They succeed if all sections are cubes and the
light of each neighbor has two slabs more than the column has sections: a
flood never leaves the column, and the neighbors are asked for the slabs of its
sections only.
-/

namespace VoxelRelay

/-! ## Slabs -/

/-- The level at `(x, y, z)`, if that lies in the section. -/
def LightSlab.levelAtChecked (slab : LightSlab) (x y z : Nat) : Option Nat :=
  if x < 16 ∧ y < 16 ∧ z < 16 then some (slab.levelAt x y z) else none

theorem LightSlab.levelAtChecked_eq
    (slab : LightSlab)
    {x y z : Nat}
    (xLt : x < 16)
    (yLt : y < 16)
    (zLt : z < 16) :
    slab.levelAtChecked x y z = some (slab.levelAt x y z) :=
  if_pos ⟨xLt, yLt, zLt⟩

namespace LightData

/--
The level of a cell, if its slab has a slot; an absent slab holds no light.
-/
def levelAtChecked (light : LightData) (voxel : Voxel) : Option Nat := do
  match ← light.slabs[voxel.slot + 1]? with
  | some slab => slab.levelAtChecked voxel.x voxel.y voxel.z
  | none => some 0

/-- Overwrites the level of a cell, if its slab has a slot. -/
def setLevelAtChecked
    (light : LightData)
    (voxel : Voxel)
    (level : Nat) : Option LightData :=
  if voxel.slot + 1 < light.size ∧ voxel.x < 16 ∧ voxel.y < 16 ∧
      voxel.z < 16 then
    some (light.setLevel (voxel.slot + 1) voxel.index level)
  else none

/--
Puts a dark slab into a slot whose slab is absent, if there is such a slot.
-/
def allocateChecked (light : LightData) (slot : Nat) : Option LightData :=
  if slot < light.size then some (light.allocate slot) else none

/-- Overwrites the level of a cell in its slab, if that has a slot. -/
def setPresentLevelAtChecked
    (light : LightData)
    (voxel : Voxel)
    (level : Nat) : Option LightData :=
  if voxel.slot + 1 < light.size ∧
      voxel.x < 16 ∧ voxel.y < 16 ∧ voxel.z < 16 then
    some (light.setPresentLevel (voxel.slot + 1) voxel.index level)
  else none

variable {light : LightData} {count : Nat}

theorem getElem?_slabs_eq
    {slot : Nat}
    (inside : slot < light.size) :
    light.slabs[slot]? = some (light.slab? slot) := by
  rw [slab?, Array.getElem?_eq_getElem inside]
  rfl

theorem levelAtChecked_eq
    (sized : light.size = count + 2)
    {voxel : Voxel}
    (inRange : voxel.InRange count) :
    light.levelAtChecked voxel = some (light.levelAt voxel) := by
  obtain ⟨slotLt, xLt, yLt, zLt⟩ := inRange
  have there : voxel.slot + 1 < light.slabs.size := by
    rw [← size, sized]
    omega
  rw [levelAtChecked, levelAt, level, Array.getElem?_eq_getElem there,
    Option.bind_eq_bind, Option.bind_some]
  cases light.slabs[voxel.slot + 1] with
  | none => rfl
  | some slab => exact slab.levelAtChecked_eq xLt yLt zLt

section

variable
    (sized : light.size = count + 2)
    {voxel : Voxel}
    (inRange : voxel.InRange count)
include sized inRange

theorem slot_lt_size : voxel.slot + 1 < light.size := by
  rw [sized]
  exact Nat.add_lt_add_right (Nat.lt_succ_of_lt inRange.1) 1

theorem setLevelAtChecked_eq (level : Nat) :
    light.setLevelAtChecked voxel level =
      some (light.setLevel (voxel.slot + 1) voxel.index level) :=
  if_pos ⟨slot_lt_size sized inRange, inRange.2⟩

theorem allocateChecked_eq :
    light.allocateChecked (voxel.slot + 1) =
      some (light.allocate (voxel.slot + 1)) :=
  if_pos (slot_lt_size sized inRange)

theorem setPresentLevelAtChecked_eq (level : Nat) :
    light.setPresentLevelAtChecked voxel level =
      some (light.setPresentLevel (voxel.slot + 1) voxel.index level) :=
  if_pos ⟨slot_lt_size sized inRange, inRange.2⟩

end

end LightData

/-! ## Floods -/

/-- The block state of a cell, if its section is there. -/
def blockOfChecked
    (sections : Array Palette)
    (voxel : Voxel) : Option UInt32 := do
  (← sections[voxel.slot]?).idAtChecked voxel.x voxel.y voxel.z

theorem blockOfChecked_eq
    {sections : Array Palette}
    (cubes : ∀ palette ∈ sections, palette.SectionCube)
    {voxel : Voxel}
    (inRange : voxel.InRange sections.size) :
    blockOfChecked sections voxel = some (blockOf sections voxel) := by
  obtain ⟨slotLt, xLt, yLt, zLt⟩ := inRange
  have known := Array.getElem?_eq_getElem slotLt
  have cube := cubes _ (Array.getElem_mem slotLt)
  rw [blockOfChecked, blockOf_eq known, known]
  exact cube.idAtChecked_eq xLt yLt zLt

namespace Flood

/-- Raises the level of a cell, which then waits to spread it. -/
def raiseChecked
    (flood : Flood)
    (voxel : Voxel)
    (level : Nat) : Option Flood := do
  return ⟨← flood.light.setLevelAtChecked voxel level,
    flood.waiting.push voxel⟩

/-- Offers light of a level from next to a cell. -/
def offerChecked
    (properties : LightProperties)
    (sections : Array Palette)
    (level : Nat)
    (flood : Flood)
    (voxel : Voxel) : Option Flood := do
  let cost := properties.cost (← blockOfChecked sections voxel)
  if level ≤ cost then return flood
  else
    let light ← flood.light.allocateChecked (voxel.slot + 1)
    if (← light.levelAtChecked voxel) < level - cost then
      return ⟨← light.setPresentLevelAtChecked voxel (level - cost),
        flood.waiting.push voxel⟩
    else return ⟨light, flood.waiting⟩

/-- Lets a cell offer its light to its neighbors. -/
def spreadFromChecked
    (properties : LightProperties)
    (sections : Array Palette)
    (flood : Flood)
    (voxel : Voxel) : Option Flood := do
  let level ← flood.light.levelAtChecked voxel
  if level ≤ 1 then return flood
  else
    (voxel.neighbors sections.size).foldlM
      (offerChecked properties sections level) flood

/--
Takes the given number of cells from the queue, or all if there are fewer.
-/
def runChecked
    (properties : LightProperties)
    (sections : Array Palette) : Nat → Flood → Option Flood
  | 0, flood => some flood
  | steps + 1, flood =>
      match flood.waiting.pop? with
      | some (voxel, rest) => do
          runChecked properties sections steps
            (← spreadFromChecked properties sections
              ⟨flood.light, rest⟩ voxel)
      | none => some flood

/-- Spreads light until no cell waits. -/
def settleChecked
    (properties : LightProperties)
    (sections : Array Palette)
    (flood : Flood) : Option LightData :=
  (flood.runChecked properties sections (flood.stepBound sections)).map
    (·.light)

/--
Offers the border light of one neighbor to the cells of this column that touch
it.
-/
def injectFromChecked
    (properties : LightProperties)
    (sections : Array Palette)
    (direction : Direction)
    (flood : Flood)
    (neighbor : LightData) : Option Flood :=
  (List.range sections.size).foldlM (fun flood slot => do
    match ← neighbor.slabs[slot + 1]? with
    | none => return flood
    | some border =>
        (List.range 16).foldlM (fun flood a =>
          let (x, z) := faceCell direction a
          let (theirX, theirZ) := faceCell direction.opposite a
          (List.range 16).foldlM (fun flood y => do
            let level ← border.levelAtChecked theirX y theirZ
            if level ≤ 1 then return flood
            else
              flood.offerChecked properties sections level
                { slot := slot, x := x, y := y, z := z })
            flood)
          flood)
    flood

/-- Offers the border light of all neighbors, in listing order. -/
def injectChecked
    (properties : LightProperties)
    (sections : Array Palette)
    (neighbors : Sides (Option LightData))
    (flood : Flood) : Option Flood :=
  Direction.all.foldlM (fun flood direction =>
    match neighbors.get direction with
    | none => some flood
    | some neighbor =>
        flood.injectFromChecked properties sections direction neighbor) flood

section

variable {sections : Array Palette} {flood : Flood}

theorem raiseChecked_eq
    {count : Nat}
    (fits : flood.Fits count)
    {voxel : Voxel}
    (inRange : voxel.InRange count)
    (level : Nat) :
    flood.raiseChecked voxel level = some (flood.raise voxel level) := by
  rw [raiseChecked, LightData.setLevelAtChecked_eq fits.size_eq inRange]
  rfl

variable
    (properties : LightProperties)
    (cubes : ∀ palette ∈ sections, palette.SectionCube)
include cubes

theorem offerChecked_eq
    (fits : flood.Fits sections.size)
    {voxel : Voxel}
    (inRange : voxel.InRange sections.size)
    (level : Nat) :
    flood.offerChecked properties sections level voxel =
      some (flood.offer properties sections level voxel) := by
  have sized :
      (flood.light.allocate (voxel.slot + 1)).size = sections.size + 2 :=
    (LightData.size_allocate _ _).trans fits.size_eq
  rw [offerChecked, blockOfChecked_eq cubes inRange, offer]
  simp only [Option.bind_eq_bind, Option.bind_some,
    LightData.allocateChecked_eq fits.size_eq inRange,
    LightData.levelAtChecked_eq sized inRange,
    LightData.setPresentLevelAtChecked_eq sized inRange]
  split
  · rfl
  · split <;> rfl

/-- A list of cells of the column may be offered light, one after another. -/
theorem foldlM_offerChecked_eq
    (fits : flood.Fits sections.size)
    {voxels : List Voxel}
    (inRange : ∀ voxel ∈ voxels, voxel.InRange sections.size)
    {level : Nat}
    (small : level < 16) :
    voxels.foldlM (offerChecked properties sections level) flood =
      some (voxels.foldl (offer properties sections level) flood) := by
  refine (foldlM_eq_some (Fits sections.size) ?_ fits).1
  intro before held voxel member
  exact ⟨offerChecked_eq properties cubes held (inRange voxel member) level,
    (extends_offer properties sections held (inRange voxel member)
      small).fits⟩

theorem spreadFromChecked_eq
    (fits : flood.Fits sections.size)
    {voxel : Voxel}
    (inRange : voxel.InRange sections.size) :
    flood.spreadFromChecked properties sections voxel =
      some (flood.spreadFrom properties sections voxel) := by
  rw [spreadFromChecked, LightData.levelAtChecked_eq fits.size_eq inRange,
    spreadFrom]
  simp only [Option.bind_eq_bind, Option.bind_some]
  split
  · rfl
  · exact foldlM_offerChecked_eq properties cubes fits
      (fun _ member => ((Voxel.mem_neighbors_iff inRange).1 member).1)
      (LightData.level_lt _ _ _)

theorem runChecked_eq
    (fits : flood.Fits sections.size)
    (steps : Nat) :
    flood.runChecked properties sections steps =
      some (flood.run properties sections steps) := by
  induction steps generalizing flood with
  | zero => rfl
  | succ steps ih =>
      rw [runChecked, run]
      cases taken : flood.waiting.pop? with
      | none => rfl
      | some next =>
          obtain ⟨inRange, restFits⟩ := fits.of_pop? taken
          dsimp only
          rw [spreadFromChecked_eq properties cubes restFits inRange]
          exact ih (extends_spreadFrom properties restFits inRange).fits

theorem settleChecked_eq (fits : flood.Fits sections.size) :
    flood.settleChecked properties sections =
      some (flood.settle properties sections) := by
  rw [settleChecked, runChecked_eq properties cubes fits]
  rfl

/--
One face of a slab is read while the cells beside it are offered its light.
-/
theorem injectFromChecked_eq
    (fits : flood.Fits sections.size)
    (direction : Direction)
    {neighbor : LightData}
    (sized : neighbor.size = sections.size + 2) :
    flood.injectFromChecked properties sections direction neighbor =
        some (flood.injectFrom properties sections direction neighbor) ∧
      (flood.injectFrom properties sections direction neighbor).Fits
        sections.size := by
  rw [injectFrom]
  simp only [fold_eq_foldl_range]
  refine foldlM_eq_some (Fits sections.size) ?_ fits
  intro before held slot member
  have slotLt := List.mem_range.1 member
  rw [LightData.getElem?_slabs_eq (by omega : slot + 1 < neighbor.size),
    Option.bind_eq_bind, Option.bind_some]
  cases neighbor.slab? (slot + 1) with
  | none => exact ⟨rfl, held⟩
  | some border =>
      refine foldlM_eq_some (Fits sections.size) ?_ held
      intro before held a member
      have aLt := List.mem_range.1 member
      refine foldlM_eq_some (Fits sections.size) ?_ held
      intro before held y member
      have yLt := List.mem_range.1 member
      have inRange := inRange_faceVoxel direction slotLt aLt yLt
      obtain ⟨-, xLt, -, zLt⟩ :=
        inRange_faceVoxel direction.opposite slotLt aLt yLt
      let there := faceVoxel direction.opposite slot a y
      have level : border.levelAtChecked there.x y there.z =
          some (border.get there.index) :=
        border.levelAtChecked_eq xLt yLt zLt
      let after := if border.get there.index ≤ 1 then before
        else before.offer properties sections (border.get there.index)
          (faceVoxel direction slot a y)
      show ((border.levelAtChecked there.x y there.z).bind fun level =>
          if level ≤ 1 then some before
          else before.offerChecked properties sections level
            (faceVoxel direction slot a y)) = some after ∧
        after.Fits sections.size
      rw [level, Option.bind_some]
      dsimp only [after]
      split
      · exact ⟨rfl, held⟩
      · exact ⟨offerChecked_eq properties cubes held inRange _,
          (extends_offer properties sections held inRange
            (border.get_lt _)).fits⟩

theorem injectChecked_eq
    (fits : flood.Fits sections.size)
    {neighbors : Sides (Option LightData)}
    (sized : ∀ direction neighbor, neighbors.get direction = some neighbor →
      neighbor.size = sections.size + 2) :
    flood.injectChecked properties sections neighbors =
      some (flood.inject properties sections neighbors) := by
  refine (foldlM_eq_some (Fits sections.size) ?_ fits).1
  intro before held direction _
  cases known : neighbors.get direction with
  | none => exact ⟨rfl, held⟩
  | some neighbor =>
      exact injectFromChecked_eq properties cubes held direction
        (sized direction neighbor known)

end

end Flood

/-! ## Sky light -/

/--
What is left of the light from above after a layer of cells has filtered it.
-/
def LightLayer.filteredChecked
    (above : LightLayer)
    (filter : Nat → Option Nat) : Option LightLayer :=
  Vector.ofFnM fun place : Fin 256 =>
    if above[place] = 0 then some 0 else (filter place).map (above[place] - ·)

/-- The filter of a cell in a layer of a section. -/
def layerFilterChecked
    (properties : LightProperties)
    (palette : Palette)
    (y place : Nat) : Option Nat :=
  (palette.idAtChecked (place % 16) y (place / 16)).map properties.filter

/--
The layers of light in the lowest `count` layers of a section, the highest
first.
-/
def descendChecked
    (properties : LightProperties)
    (palette : Palette) : Nat → LightLayer → Option (List LightLayer)
  | 0, _ => some []
  | y + 1, above => do
      let layer ← above.filteredChecked
        (layerFilterChecked properties palette y)
      return layer :: (← descendChecked properties palette y layer)

/-- A slab from its sixteen layers, the highest first. -/
def slabOfLayersChecked (layers : Array LightLayer) : Option LightSlab :=
  if layers.size = 16 then some (slabOfLayers layers) else none

/--
Light going straight down through a section: the layer below it and its slab.
-/
def descendSectionChecked
    (properties : LightProperties)
    (palette : Palette)
    (above : LightLayer) : Option (LightLayer × LightSlab) := do
  if (← palette.singleChecked) = some air then return (above, above.columns)
  else
    let layers := (← descendChecked properties palette 16 above).toArray
    return (layers.back?.getD above, ← slabOfLayersChecked layers)

/--
Light going straight down through a stack of sections: the layer below and the
slabs.
-/
def descendSectionsChecked
    (properties : LightProperties)
    (sections : List Palette) : Option (LightLayer × List LightSlab) :=
  sections.foldrM (fun palette (above, slabs) => do
    let (below, slab) ← descendSectionChecked properties palette above
    return (below, slab :: slabs)) (LightLayer.full, [])

/-- Sky light before any of it spreads to the side. -/
def LightData.straightDownChecked
    (properties : LightProperties)
    (sections : Array Palette) : Option LightData := do
  let (below, slabs) ← descendSectionsChecked properties sections.toList
  return ⟨(((below.columns :: slabs) ++ [LightSlab.full]).map some).toArray⟩

/--
Whether it is darker by more than one level at `(x, y, z)`, if that is beside
a cell.
-/
def LightSlab.isDarkerChecked
    (slab : LightSlab)
    (beside : Bool)
    (x y z level : Nat) : Option Bool :=
  if beside then (slab.levelAtChecked x y z).map (· + 1 < level)
  else some false

/--
Whether a cell is more than one level brighter than one beside it in its
section.
-/
def hasDarkerSideChecked
    (slab : LightSlab)
    (voxel : Voxel)
    (level : Nat) : Option Bool := do
  let west ← slab.isDarkerChecked (0 < voxel.x) (voxel.x - 1) voxel.y
    voxel.z level
  let east ← slab.isDarkerChecked (voxel.x < 15) (voxel.x + 1) voxel.y
    voxel.z level
  let north ← slab.isDarkerChecked (0 < voxel.z) voxel.x voxel.y
    (voxel.z - 1) level
  let south ← slab.isDarkerChecked (voxel.z < 15) voxel.x voxel.y
    (voxel.z + 1) level
  return west || east || north || south

/-- Lets a cell join the queue if light can spread from it to the side. -/
def Flood.pushBrightEdgeChecked
    (slab : LightSlab)
    (flood : Flood)
    (voxel : Voxel) : Option Flood := do
  let level ← slab.levelAtChecked voxel.x voxel.y voxel.z
  let darker ← hasDarkerSideChecked slab voxel level
  return if 1 < level && darker then flood.push voxel else flood

/--
Lets the cells from which light can spread join the queue, the lowest section
first.
-/
def Flood.pushBrightEdgesChecked
    (flood : Flood)
    (count : Nat) : Option Flood :=
  (List.range count).foldlM (fun flood slot => do
    match ← flood.light.slabs[slot + 1]? with
    | some slab =>
        if slab.isUniform then return flood
        else (Voxel.ofSection slot).foldlM (pushBrightEdgeChecked slab) flood
    | none => return flood) flood

/-- The sky light of a column. -/
def LightInput.skyLightChecked
    (properties : LightProperties)
    (input : LightInput) : Option LightData := do
  let neighbors :=
    input.neighborLight.map fun light => light.map ColumnLight.sky
  let start :=
    Flood.still (← LightData.straightDownChecked properties input.sections)
  let lit ← start.injectChecked properties input.sections neighbors
  (← lit.pushBrightEdgesChecked input.sections.size).settleChecked properties
    input.sections

theorem LightLayer.filteredChecked_eq
    (above : LightLayer)
    {filter : Nat → Option Nat}
    {plain : Nat → Nat}
    (each : ∀ place, place < 256 → filter place = some (plain place)) :
    above.filteredChecked filter = some (above.filtered plain) := by
  have cells : (fun place : Fin 256 =>
      if above[place] = 0 then some 0
      else (filter place).map (above[place] - ·)) =
      pure ∘ fun place : Fin 256 =>
        if above[place] = 0 then 0 else above[place] - plain place := by
    funext place
    rw [each place place.isLt]
    dsimp only [Function.comp, Option.map_some]
    split <;> rfl
  have filtered : above.filtered plain =
      .ofFn fun place : Fin 256 =>
        if above[place] = 0 then 0 else above[place] - plain place := by
    ext place inside
    simp [LightLayer.filtered]
  rw [filteredChecked, cells, Vector.ofFnM_pure_comp, filtered]
  rfl

section

variable
    (properties : LightProperties)
    {palette : Palette}
    (cube : palette.SectionCube)
include cube

theorem descendChecked_eq
    {count : Nat}
    (below : count ≤ 16)
    (above : LightLayer) :
    descendChecked properties palette count above =
      some (descend properties palette count above) := by
  induction count generalizing above with
  | zero => rfl
  | succ y ih =>
      have filters : ∀ place, place < 256 →
        layerFilterChecked properties palette y place =
          some (layerFilter properties palette y place) := by
        intro place inside
        rw [layerFilterChecked,
          cube.idAtChecked_eq (by omega) (by omega) (by omega)]
        rfl
      rw [descendChecked, above.filteredChecked_eq filters,
        Option.bind_eq_bind, Option.bind_some, ih (by omega)]
      rfl

theorem descendSectionChecked_eq (above : LightLayer) :
    descendSectionChecked properties palette above =
      some (descendSection properties palette above) := by
  have sized :
      slabOfLayersChecked (descend properties palette 16 above).toArray =
      some (slabOfLayers (descend properties palette 16 above).toArray) :=
    if_pos (length_descend palette 16 above)
  rw [descendSectionChecked, cube.toWellFormed.singleChecked_eq,
    descendSection]
  simp only [Option.bind_eq_bind, Option.bind_some,
    descendChecked_eq properties cube (Nat.le_refl 16), sized]
  split <;> rfl

end

theorem descendSectionsChecked_eq
    (properties : LightProperties)
    {sections : List Palette}
    (cubes : ∀ palette ∈ sections, palette.SectionCube) :
    descendSectionsChecked properties sections =
      some (descendSections properties sections) := by
  induction sections with
  | nil => rfl
  | cons palette rest ih =>
      have lower :=
        ih fun later member => cubes later (List.mem_cons_of_mem _ member)
      have here :=
        descendSectionChecked_eq properties (cubes palette List.mem_cons_self)
      rw [descendSectionsChecked] at lower ⊢
      rw [List.foldrM_cons, lower]
      simp only [Option.bind_eq_bind, Option.bind_some, here]
      rfl

theorem LightData.straightDownChecked_eq
    (properties : LightProperties)
    {sections : Array Palette}
    (cubes : ∀ palette ∈ sections, palette.SectionCube) :
    straightDownChecked properties sections =
      some (straightDown properties sections) := by
  have descended := descendSectionsChecked_eq properties
    fun palette member => cubes palette (Array.mem_toList_iff.1 member)
  rw [straightDownChecked, descended]
  rfl

theorem LightSlab.isDarkerChecked_eq
    (slab : LightSlab)
    {beside : Bool}
    {x y z : Nat}
    (inside : beside = true → x < 16 ∧ y < 16 ∧ z < 16)
    (level : Nat) :
    slab.isDarkerChecked beside x y z level =
      some (beside && decide (slab.levelAt x y z + 1 < level)) := by
  cases beside with
  | false => rfl
  | true =>
      obtain ⟨xLt, yLt, zLt⟩ := inside rfl
      rw [isDarkerChecked, if_pos rfl, slab.levelAtChecked_eq xLt yLt zLt]
      rfl

theorem hasDarkerSideChecked_eq
    (slab : LightSlab)
    {voxel : Voxel}
    (xLt : voxel.x < 16)
    (yLt : voxel.y < 16)
    (zLt : voxel.z < 16)
    (level : Nat) :
    hasDarkerSideChecked slab voxel level =
      some (hasDarkerSide slab voxel level) := by
  -- A neighbor by its coordinates is the one by its number, if it lies in the
  -- section.
  have numbered (beside : Bool) (x z index : Nat)
      (same : beside = true → cellIndex x voxel.y z = index) :
      (beside && decide (slab.levelAt x voxel.y z + 1 < level)) =
        (beside && decide (slab.get index + 1 < level)) := by
    cases beside with
    | false => rfl
    | true => rw [LightSlab.levelAt, same rfl]
  have west :=
    numbered (0 < voxel.x) (voxel.x - 1) voxel.z (voxel.index - 1) (by
      intro beside
      have beside := of_decide_eq_true beside
      unfold Voxel.index cellIndex
      omega)
  have east :=
    numbered (voxel.x < 15) (voxel.x + 1) voxel.z (voxel.index + 1) (by
      intro
      unfold Voxel.index cellIndex
      omega)
  have north :=
    numbered (0 < voxel.z) voxel.x (voxel.z - 1) (voxel.index - 16) (by
      intro beside
      have beside := of_decide_eq_true beside
      unfold Voxel.index cellIndex
      omega)
  have south :=
    numbered (voxel.z < 15) voxel.x (voxel.z + 1) (voxel.index + 16) (by
      intro
      unfold Voxel.index cellIndex
      omega)
  rw [hasDarkerSideChecked,
    slab.isDarkerChecked_eq (fun _ => ⟨by omega, yLt, zLt⟩),
      slab.isDarkerChecked_eq
        (fun beside =>
          ⟨by have := of_decide_eq_true beside; omega, yLt, zLt⟩),
          slab.isDarkerChecked_eq (fun _ => ⟨xLt, yLt, by omega⟩),
    slab.isDarkerChecked_eq
      (fun beside => ⟨xLt, yLt, by have := of_decide_eq_true beside; omega⟩),
    west, east, north, south]
  rfl

theorem Flood.pushBrightEdgesChecked_eq
    {count : Nat}
    {flood : Flood}
    (fits : flood.Fits count) :
    flood.pushBrightEdgesChecked count =
      some (flood.pushBrightEdges count) := by
  rw [pushBrightEdges, fold_eq_foldl_range]
  refine (foldlM_eq_some (fun flood : Flood => flood.light.size = count + 2)
    ?_ fits.size_eq).1
  intro before sized slot member
  have slotLt := List.mem_range.1 member
  rw [LightData.getElem?_slabs_eq (by omega : slot + 1 < before.light.size),
    Option.bind_eq_bind, Option.bind_some]
  cases before.light.slab? (slot + 1) with
  | none => exact ⟨rfl, sized⟩
  | some slab =>
      refine ⟨?_, by rw [light_foldl_push, sized]⟩
      dsimp only [brightEdges]
      split
      · rfl
      · rw [List.foldl_filter]
        refine (foldlM_eq_some (fun _ => True) ?_ trivial).1
        intro before _ voxel member
        obtain ⟨-, xLt, yLt, zLt⟩ := Voxel.mem_ofSection_iff.1 member
        rw [pushBrightEdgeChecked, slab.levelAtChecked_eq xLt yLt zLt,
          Option.bind_eq_bind, Option.bind_some,
          hasDarkerSideChecked_eq slab xLt yLt zLt]
        exact ⟨rfl, trivial⟩

/-! ## Block light -/

/-- Lets the cells of a section that give off light start at their emission. -/
def Flood.igniteSectionChecked
    (properties : LightProperties)
    (palette : Palette)
    (slot : Nat)
    (flood : Flood) : Option Flood :=
  if palette.anyId (fun id => 0 < properties.emission id) then
    (Voxel.ofSection slot).foldlM (fun flood voxel => do
      let emission :=
        properties.emission (← palette.idAtChecked voxel.x voxel.y voxel.z)
      if 0 < emission then flood.raiseChecked voxel (min emission maxLevel)
      else return flood) flood
  else some flood

/--
Lets all cells that give off light start at their emission, the lowest section
first.
-/
def Flood.igniteChecked
    (properties : LightProperties)
    (sections : Array Palette)
    (flood : Flood) : Option Flood :=
  sections.toList.zipIdx.foldlM
    (fun flood (palette, slot) =>
      flood.igniteSectionChecked properties palette slot) flood

/-- The block light of a column. -/
def LightInput.blockLightChecked
    (properties : LightProperties)
    (input : LightInput) : Option LightData := do
  let neighbors :=
    input.neighborLight.map fun light => light.map ColumnLight.block
  let lit ← (Flood.still (.empty input.sections.size)).igniteChecked
    properties input.sections
  (← lit.injectChecked properties input.sections neighbors).settleChecked
    properties input.sections

/-- The light of a column. -/
def LightInput.lightChecked
    (properties : LightProperties)
    (input : LightInput) : Option ColumnLight := do
  return ⟨← input.skyLightChecked properties,
    ← input.blockLightChecked properties⟩

namespace Flood

theorem igniteSectionChecked_eq
    (properties : LightProperties)
    {palette : Palette}
    (cube : palette.SectionCube)
    {count slot : Nat}
    (slotLt : slot < count)
    {flood : Flood}
    (fits : flood.Fits count) :
    flood.igniteSectionChecked properties palette slot =
        some (flood.igniteSection properties palette slot) ∧
      (flood.igniteSection properties palette slot).Fits count := by
  rw [igniteSectionChecked, igniteSection]
  split
  · refine foldlM_eq_some (Fits count) ?_ fits
    intro before held voxel member
    obtain ⟨here, xLt, yLt, zLt⟩ := Voxel.mem_ofSection_iff.1 member
    have inRange : voxel.InRange count := ⟨here ▸ slotLt, xLt, yLt, zLt⟩
    rw [cube.idAtChecked_eq xLt yLt zLt]
    simp only [Option.bind_eq_bind, Option.bind_some,
      raiseChecked_eq held inRange]
    split
    · exact ⟨rfl, held.raise inRange _⟩
    · exact ⟨rfl, held⟩
  · exact ⟨rfl, fits⟩

theorem igniteChecked_eq
    (properties : LightProperties)
    {sections : Array Palette}
    (cubes : ∀ palette ∈ sections, palette.SectionCube)
    {flood : Flood}
    (fits : flood.Fits sections.size) :
    flood.igniteChecked properties sections =
      some (flood.ignite properties sections) := by
  rw [ignite_eq_foldl]
  refine (foldlM_eq_some (Fits sections.size) ?_ fits).1
  rintro before held ⟨palette, slot⟩ member
  have known : sections[slot]? = some palette := by
    simpa using List.mk_mem_zipIdx_iff_getElem?.1 member
  exact igniteSectionChecked_eq properties
    (cubes palette (Array.mem_of_getElem? known))
    (Array.getElem?_eq_some_iff.1 known).1 held

end Flood

/-! ## The light of a column -/

/-- Both kinds of light of a column have two slabs more than it has sections. -/
structure ColumnLight.Spans (light : ColumnLight) (count : Nat) : Prop where
  sky : light.sky.size = count + 2
  block : light.block.size = count + 2

namespace LightInput

/-- Light is computed from cubes and from light that spans as many sections. -/
structure Shaped (input : LightInput) : Prop where
  cubes : ∀ palette ∈ input.sections, palette.SectionCube
  neighborCubes : ∀ direction sections,
    input.neighborSections.get direction = some sections →
    ∀ palette ∈ sections, palette.SectionCube
  neighborSpans : ∀ direction light,
    input.neighborLight.get direction = some light →
    light.Spans input.sections.size

variable {input : LightInput}

/-- What holds of the light of all neighbors holds of one kind of it. -/
theorem forall_get_map
    {kind : ColumnLight → LightData}
    {holds : LightData → Prop}
    (each : ∀ direction light,
      input.neighborLight.get direction = some light → holds (kind light))
    (direction : Direction)
    (light : LightData)
    (known : (input.neighborLight.map (Option.map kind)).get direction =
      some light) :
    holds light := by
  rw [Sides.map, Sides.get_ofFn] at known
  obtain ⟨whole, there, rfl⟩ := Option.map_eq_some_iff.1 known
  exact each direction whole there

variable (properties : LightProperties) (shaped : input.Shaped)
include shaped

theorem skyLightChecked_eq :
    input.skyLightChecked properties = some (input.skyLight properties) := by
  have lit := Flood.injectChecked_eq properties shaped.cubes
    (fits_still_straightDown properties input)
    (forall_get_map fun direction light known =>
      (shaped.neighborSpans direction light known).sky)
  have pushed :=
    Flood.pushBrightEdgesChecked_eq (extends_skyLit properties input).fits
  have settled :=
    Flood.settleChecked_eq properties shaped.cubes
      (fits_skyFlood properties input)
  rw [skyLightChecked,
    LightData.straightDownChecked_eq properties shaped.cubes]
  simp only [Option.bind_eq_bind, Option.bind_some]
  rw [lit, Option.bind_some]
  exact (congrArg (·.bind (Flood.settleChecked properties input.sections))
    pushed).trans settled

theorem blockLightChecked_eq :
    input.blockLightChecked properties =
      some (input.blockLight properties) := by
  have ignited := Flood.igniteChecked_eq properties shaped.cubes
    (fits_still_empty input.sections.size)
  have lit := Flood.injectChecked_eq properties shaped.cubes
    (fits_ignite properties shaped.cubes)
    (forall_get_map fun direction light known =>
      (shaped.neighborSpans direction light known).block)
  have settled := Flood.settleChecked_eq properties shaped.cubes
    (@fits_blockFlood properties input shaped.cubes)
  rw [blockLightChecked, ignited]
  simp only [Option.bind_eq_bind, Option.bind_some]
  rw [lit, Option.bind_some]
  exact settled

/--
The light of a column is computed within the bounds of its sections and slabs.
-/
theorem lightChecked_eq :
    input.lightChecked properties = some (input.light properties) := by
  rw [lightChecked, skyLightChecked_eq properties shaped,
    blockLightChecked_eq properties shaped]
  rfl

theorem Shaped.spans_light :
    (input.light properties).Spans input.sections.size where
  sky := size_skyLight properties input
  block := size_blockLight properties input shaped.cubes

end LightInput

end VoxelRelay
