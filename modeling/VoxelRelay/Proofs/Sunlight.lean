import Mathlib.Algebra.BigOperators.Intervals
import VoxelRelay.Light.Sky
import VoxelRelay.Proofs.LightEquations
import VoxelRelay.Proofs.PaletteCells

/-!
# Light that goes straight down

Before any sky light spreads to the side, a cell has what the cells above it
and the cell itself leave of the brightest level.  The light is computed layer
by layer and section by section, and a section of nothing but air is passed
through without looking at its cells.  This file shows that the outcome is one
subtraction: the brightest level minus all that is lost from the top down to
the cell.  What is lost in a cell is what it filters, where air filters
nothing.
-/

namespace VoxelRelay

open Finset

/-- The filter of the cell at a height over the bottom of a column. -/
def filterAt
    (properties : LightProperties)
    (sections : Array Palette)
    (x z height : Nat) : Nat :=
  properties.filter
    (blockOf sections
      { slot := height / 16, x := x, y := height % 16, z := z })

/-- What is left of the light from the sky at a height, going straight down. -/
def sunlightAt
    (properties : LightProperties)
    (sections : Array Palette)
    (x z height : Nat) : Nat :=
  maxLevel - ∑ above ∈ Ico height (sections.size * 16),
    filterAt properties sections x z above

/-- What is left of the light from the sky in a cell. -/
def sunlight
    (properties : LightProperties)
    (sections : Array Palette)
    (voxel : Voxel) : Nat :=
  sunlightAt properties sections voxel.x voxel.z voxel.height

/-! ## Layers -/

namespace LightLayer

@[simp]
theorem get_full
    {place : Nat}
    (inside : place < 256) :
    full.get place = maxLevel := by
  simp [get, full, inside]

theorem get_filtered
    (above : LightLayer)
    (filter : Nat → Nat)
    {place : Nat}
    (inside : place < 256) :
    (above.filtered filter).get place = above.get place - filter place := by
  have known : (above.filtered filter).get place =
      if above.get place = 0 then 0 else above.get place - filter place := by
    simp [get, filtered, inside]
  rw [known]
  split
  · next dark => rw [dark, Nat.zero_sub]
  · rfl

end LightLayer

variable {properties : LightProperties}

/--
The layers of a section, of which each takes its filters from the one above.
-/
theorem get_descend
    (properties : LightProperties)
    (palette : Palette)
    {count y : Nat}
    (inside : y < count)
    (above : LightLayer) :
    ∃ layer, (descend properties palette count above)[count - 1 - y]? =
      some layer ∧
      ∀ place, place < 256 → layer.get place =
        above.get place - ∑ height ∈ Ico y count,
          layerFilter properties palette height place := by
  induction count generalizing above with
  | zero => cases inside
  | succ count ih =>
      let top := above.filtered (layerFilter properties palette count)
      have unfolded : descend properties palette (count + 1) above =
          top :: descend properties palette count top := rfl
      have topLevel : ∀ place, place < 256 →
          top.get place = above.get place -
            layerFilter properties palette count place :=
        fun place placeLt => above.get_filtered _ placeLt
      rcases Nat.lt_or_ge y count with lower | here
      · obtain ⟨layer, known, level⟩ := ih lower top
        have position : count + 1 - 1 - y = (count - 1 - y) + 1 := by omega
        refine ⟨layer, ?_, ?_⟩
        · rw [unfolded, position, List.getElem?_cons_succ, known]
        · intro place placeLt
          rw [level place placeLt, topLevel place placeLt, Nat.sub_sub,
            sum_Ico_succ_top (Nat.le_of_lt lower), Nat.add_comm]
      · have same : y = count := le_antisymm (Nat.le_of_lt_succ inside) here
        refine ⟨top, ?_, ?_⟩
        · rw [unfolded, same, Nat.add_sub_cancel, Nat.sub_self,
            List.getElem?_cons_zero]
        · intro place placeLt
          rw [topLevel place placeLt, same, Nat.Ico_succ_singleton,
            sum_singleton]

theorem length_descend
    (palette : Palette)
    (count : Nat)
    (above : LightLayer) :
    (descend properties palette count above).length = count := by
  induction count generalizing above with
  | zero => rfl
  | succ count ih => exact congrArg Nat.succ (ih _)

/-! ## Sections -/

/-- A layer with levels that a slab can hold. -/
def LightLayer.Small (layer : LightLayer) : Prop :=
  ∀ place, place < 256 → layer.get place < 16

theorem get_columns
    {layer : LightLayer}
    (small : layer.Small)
    {index : Nat}
    (inside : index < 4096) :
    layer.columns.get index = layer.get (index % 256) := by
  rw [LightLayer.columns, LightSlab.get_ofFn _ inside]
  exact Nat.mod_eq_of_lt (small _ (Nat.mod_lt _ (by decide)))

/--
What light loses in a cell on its way down: nothing in a section of nothing
but air.
-/
def layerLoss
    (properties : LightProperties)
    (palette : Palette)
    (y place : Nat) : Nat :=
  if palette.single? = some air then 0
  else layerFilter properties palette y place

theorem layerLoss_le
    (properties : LightProperties)
    (palette : Palette)
    (y place : Nat) :
    layerLoss properties palette y place ≤
      layerFilter properties palette y place := by
  unfold layerLoss
  split
  · exact Nat.zero_le _
  · exact le_rfl

theorem layerLoss_eq
    (clear : properties.filter air = 0)
    (palette : Palette)
    (y place : Nat) :
    layerLoss properties palette y place =
      layerFilter properties palette y place := by
  unfold layerLoss
  split
  · next single =>
      rw [layerFilter, Palette.idAt, Palette.idAtCell_of_single? single,
        clear]
  · rfl

/-- What a section leaves of the light from above, in its cells and below it. -/
theorem get_descendSection
    (properties : LightProperties)
    (palette : Palette)
    {above : LightLayer}
    (small : above.Small) :
    (∀ place, place < 256 →
      (descendSection properties palette above).1.get place =
        above.get place - ∑ height ∈ Ico 0 16,
          layerLoss properties palette height place) ∧
    (∀ index, index < 4096 →
      (descendSection properties palette above).2.get index =
        above.get (index % 256) -
          ∑ height ∈ Ico (index / 256) 16,
            layerLoss properties palette height (index % 256)) := by
  by_cases single : palette.single? = some air
  · have unfolded : descendSection properties palette above =
        (above, above.columns) :=
      if_pos single
    have nothing : ∀ low place : Nat,
        ∑ height ∈ Ico low 16,
          layerLoss properties palette height place = 0 :=
      fun _ _ => sum_eq_zero fun _ _ => if_pos single
    rw [unfolded]
    refine ⟨fun place _ => ?_, fun index inside => ?_⟩
    · rw [nothing, Nat.sub_zero]
    · rw [nothing, Nat.sub_zero, get_columns small inside]
  · let layers := (descend properties palette 16 above).toArray
    have unfolded : descendSection properties palette above =
        (layers.back?.getD above, slabOfLayers layers) :=
      if_neg single
    have layerAt : ∀ y, y < 16 → ∃ layer, layers[15 - y]? = some layer ∧
        ∀ place, place < 256 → layer.get place =
          above.get place - ∑ height ∈ Ico y 16,
            layerLoss properties palette height place := by
      intro y yLt
      obtain ⟨layer, known, level⟩ := get_descend properties palette yLt above
      refine ⟨layer, by rw [List.getElem?_toArray, ← known],
        fun place placeLt => ?_⟩
      rw [level place placeLt]
      congr 1
      exact sum_congr rfl fun _ _ => (if_neg single).symm
    rw [unfolded]
    refine ⟨fun place placeLt => ?_, fun index inside => ?_⟩
    · obtain ⟨layer, known, level⟩ := layerAt 0 (by decide)
      have last : layers.back? = some layer := by
        rw [Array.back?_eq_getElem?, List.size_toArray, length_descend]
        exact known
      rw [last]
      exact level place placeLt
    · obtain ⟨layer, known, level⟩ := layerAt (index / 256) (by omega)
      have placeLt : index % 256 < 256 := Nat.mod_lt _ (by decide)
      rw [slabOfLayers, LightSlab.get_ofFn _ inside, known]
      change layer.get (index % 256) % 16 = _
      rw [level _ placeLt]
      exact Nat.mod_eq_of_lt
        (lt_of_le_of_lt (Nat.sub_le _ _) (small _ placeLt))

/-! ## The whole column -/

/-- What light loses at a height over the bottom of a stack of sections. -/
def stackLoss
    (properties : LightProperties)
    (sections : List Palette)
    (place height : Nat) : Nat :=
  match sections[height / 16]? with
  | some palette => layerLoss properties palette (height % 16) place
  | none => 0

theorem stackLoss_cons_of_lt
    (palette : Palette)
    (rest : List Palette)
    (place : Nat)
    {height : Nat}
    (low : height < 16) :
    stackLoss properties (palette :: rest) place height =
      layerLoss properties palette height place := by
  rw [stackLoss, Nat.div_eq_of_lt low, Nat.mod_eq_of_lt low]
  rfl

theorem stackLoss_cons_add
    (palette : Palette)
    (rest : List Palette)
    (place height : Nat) :
    stackLoss properties (palette :: rest) place (height + 16) =
      stackLoss properties rest place height := by
  rw [stackLoss, Nat.add_div_right _ (by decide), Nat.add_mod_right]
  rfl

/-- Above the lowest section a stack takes what the sections above it take. -/
theorem sum_stackLoss_cons_add
    (properties : LightProperties)
    (palette : Palette)
    (rest : List Palette)
    (place low : Nat) :
    ∑ height ∈ Ico (low + 16) ((palette :: rest).length * 16),
        stackLoss properties (palette :: rest) place height =
      ∑ height ∈ Ico low (rest.length * 16),
        stackLoss properties rest place height := by
  rw [List.length_cons, Nat.succ_mul, ← sum_Ico_add']
  exact sum_congr rfl fun height _ =>
    stackLoss_cons_add palette rest place height

/--
From within the lowest section a stack takes what this section and the others
take.
-/
theorem sum_stackLoss_cons
    (palette : Palette)
    (rest : List Palette)
    (place : Nat)
    {low : Nat}
    (inside : low ≤ 16) :
    ∑ height ∈ Ico low ((palette :: rest).length * 16),
        stackLoss properties (palette :: rest) place height =
      ∑ height ∈ Ico 0 (rest.length * 16),
        stackLoss properties rest place height +
        ∑ height ∈ Ico low 16, layerLoss properties palette height place := by
  have reach : 16 ≤ (palette :: rest).length * 16 := by
    rw [List.length_cons]
    omega
  rw [← sum_Ico_consecutive _ inside reach, Nat.add_comm]
  congr 1
  · have shifted := sum_stackLoss_cons_add properties palette rest place 0
    rwa [Nat.zero_add] at shifted
  · exact sum_congr rfl fun height member =>
      stackLoss_cons_of_lt palette rest place (mem_Ico.1 member).2

/--
What a stack of sections leaves of the light from the sky, in its cells and
below it.
-/
structure Descended
    (properties : LightProperties)
    (sections : List Palette)
    (result : LightLayer × List LightSlab) : Prop where
  length_eq : result.2.length = sections.length
  below : ∀ place, place < 256 → result.1.get place =
    maxLevel - ∑ height ∈ Ico 0 (sections.length * 16),
      stackLoss properties sections place height
  inside : ∀ slot slab, result.2[slot]? = some slab → ∀ index, index < 4096 →
    slab.get index = maxLevel -
      ∑ height ∈ Ico (slot * 16 + index / 256) (sections.length * 16),
        stackLoss properties sections (index % 256) height

theorem Descended.small
    {sections : List Palette}
    {result : LightLayer × List LightSlab}
    (descended : Descended properties sections result) :
    result.1.Small := by
  intro place placeLt
  rw [descended.below place placeLt]
  exact lt_of_le_of_lt (Nat.sub_le _ _) (by decide)

theorem Descended.cons
    {rest : List Palette}
    {result : LightLayer × List LightSlab}
    (descended : Descended properties rest result)
    (palette : Palette) :
    Descended properties (palette :: rest)
      ((descendSection properties palette result.1).1,
        (descendSection properties palette result.1).2 :: result.2) := by
  obtain ⟨below, cells⟩ :=
    get_descendSection properties palette descended.small
  refine ⟨congrArg Nat.succ descended.length_eq, ?_, ?_⟩
  · intro place placeLt
    rw [below place placeLt, descended.below place placeLt, Nat.sub_sub,
      sum_stackLoss_cons palette rest place (Nat.zero_le _)]
  · intro slot slab known index inside
    have placeLt : index % 256 < 256 := Nat.mod_lt _ (by decide)
    cases slot with
    | zero =>
        cases known
        rw [cells index inside, descended.below _ placeLt, Nat.sub_sub,
          Nat.zero_mul, Nat.zero_add,
          sum_stackLoss_cons palette rest _ (by omega)]
    | succ slot =>
        have order : (slot + 1) * 16 + index / 256 =
            slot * 16 + index / 256 + 16 := by omega
        rw [descended.inside slot slab known index inside, order,
          sum_stackLoss_cons_add properties palette rest]

theorem descended_descendSections
    (properties : LightProperties)
    (sections : List Palette) :
    Descended properties sections (descendSections properties sections) := by
  induction sections with
  | nil =>
      refine ⟨rfl, fun place placeLt => ?_, fun slot slab known => ?_⟩
      · exact LightLayer.get_full placeLt
      · cases known
  | cons palette rest ih => exact ih.cons palette

/-! ## Light in the cells of a column -/

/--
What is left of the light from the sky at a height, going straight down as it
is computed.
-/
def downlightAt
    (properties : LightProperties)
    (sections : Array Palette)
    (x z height : Nat) : Nat :=
  maxLevel - ∑ above ∈ Ico height (sections.size * 16),
    stackLoss properties sections.toList (z * 16 + x) above

/--
What is left of the light from the sky in a cell, going straight down as it is
computed.
-/
def downlight
    (properties : LightProperties)
    (sections : Array Palette)
    (voxel : Voxel) : Nat :=
  downlightAt properties sections voxel.x voxel.z voxel.height

/--
Where air filters nothing, it does not matter that sections of air are passed
through.
-/
theorem downlightAt_eq_sunlightAt
    (clear : properties.filter air = 0)
    (sections : Array Palette)
    {x : Nat}
    (xLt : x < 16)
    (z height : Nat) :
    downlightAt properties sections x z height =
      sunlightAt properties sections x z height := by
  unfold downlightAt sunlightAt
  congr 1
  apply sum_congr rfl
  intro above member
  have slotLt : above / 16 < sections.size := by
    have upper := (mem_Ico.1 member).2
    omega
  have column : (z * 16 + x) % 16 = x := by omega
  have row : (z * 16 + x) / 16 = z := by omega
  rw [stackLoss, Array.getElem?_toList, filterAt, blockOf,
    Array.getElem?_eq_getElem slotLt]
  simp only
  rw [layerLoss_eq clear, layerFilter, column, row]

theorem downlightAt_succ
    (properties : LightProperties)
    {sections : Array Palette}
    (x z : Nat)
    {height : Nat}
    (inside : height < sections.size * 16) :
    downlightAt properties sections x z height =
      downlightAt properties sections x z (height + 1) -
        stackLoss properties sections.toList (z * 16 + x) height := by
  unfold downlightAt
  rw [sum_eq_sum_Ico_succ_bot inside, Nat.sub_sub, Nat.add_comm]

theorem stackLoss_le_cost
    (properties : LightProperties)
    {sections : Array Palette}
    {voxel : Voxel}
    (inRange : voxel.InRange sections.size) :
    stackLoss properties sections.toList (voxel.z * 16 + voxel.x)
      voxel.height ≤
      properties.cost (blockOf sections voxel) := by
  obtain ⟨slotLt, xLt, yLt, zLt⟩ := inRange
  have known : sections[voxel.slot]? = some sections[voxel.slot] :=
    Array.getElem?_eq_getElem slotLt
  have slot : voxel.height / 16 = voxel.slot := by
    unfold Voxel.height
    omega
  have layer : voxel.height % 16 = voxel.y := by
    unfold Voxel.height
    omega
  have column : (voxel.z * 16 + voxel.x) % 16 = voxel.x := by omega
  have row : (voxel.z * 16 + voxel.x) / 16 = voxel.z := by omega
  rw [stackLoss, Array.getElem?_toList, slot, known]
  calc
    layerLoss properties sections[voxel.slot] (voxel.height % 16)
      (voxel.z * 16 + voxel.x) ≤
        layerFilter properties sections[voxel.slot] (voxel.height % 16)
            (voxel.z * 16 + voxel.x) :=
          layerLoss_le _ _ _ _
    _ = properties.filter (blockOf sections voxel) := by
          rw [blockOf_eq known, layerFilter, layer, column, row]
    _ ≤ properties.cost (blockOf sections voxel) := Nat.le_max_right _ _

/--
A cell has no more than the light above it, and of that all but its cost at
least.
-/
theorem downlight_below
    (properties : LightProperties)
    {sections : Array Palette}
    {lower upper : Voxel}
    (inRange : lower.InRange sections.size)
    (xs : lower.x = upper.x)
    (zs : lower.z = upper.z)
    (heights : lower.height + 1 = upper.height) :
    downlight properties sections lower ≤
      downlight properties sections upper ∧
      downlight properties sections upper -
        properties.cost (blockOf sections lower) ≤
        downlight properties sections lower := by
  have inside : lower.height < sections.size * 16 := by
    obtain ⟨slotLt, -, yLt, -⟩ := inRange
    unfold Voxel.height
    omega
  have loss := stackLoss_le_cost properties inRange
  have falls := downlightAt_succ properties lower.x lower.z inside
  rw [heights] at falls
  unfold downlight
  rw [← xs, ← zs, falls]
  exact ⟨Nat.sub_le _ _, Nat.sub_le_sub_left loss _⟩

/-! ## The slabs of a column -/

namespace LightData

variable (properties)

theorem size_straightDown (sections : Array Palette) :
    (straightDown properties sections).size = sections.size + 2 := by
  have descended := descended_descendSections properties sections.toList
  simp [straightDown, size, descended.length_eq]

theorem slab?_straightDown_top (sections : Array Palette) :
    (straightDown properties sections).slab? (sections.size + 1) =
      some LightSlab.full := by
  have descended := descended_descendSections properties sections.toList
  simp [straightDown, slab?, descended.length_eq]

/-- No slab of light that goes straight down is absent. -/
theorem isSome_slab?_straightDown
    (sections : Array Palette)
    {slot : Nat}
    (inside : slot < sections.size + 2) :
    ((straightDown properties sections).slab? slot).isSome = true := by
  rw [← size_straightDown properties] at inside
  simp only [straightDown, size, List.size_toArray, List.length_map] at inside
  simp only [straightDown, slab?, List.getElem?_toArray, List.getElem?_map]
  rw [List.getElem?_eq_getElem inside]
  rfl

/--
The slab below the bottom holds what the column leaves of the light from the
sky.
-/
theorem level_straightDown_zero
    (sections : Array Palette)
    {x y z : Nat}
    (xLt : x < 16)
    (yLt : y < 16)
    (zLt : z < 16) :
    (straightDown properties sections).level 0 (cellIndex x y z) =
      downlightAt properties sections x z 0 := by
  have descended := descended_descendSections properties sections.toList
  have present : (straightDown properties sections).slab? 0 =
      some (descendSections properties sections.toList).1.columns := by
    simp [straightDown, slab?]
  have inside : cellIndex x y z < 4096 := by
    unfold cellIndex
    omega
  have place : cellIndex x y z % 256 = z * 16 + x := by
    unfold cellIndex
    omega
  rw [level_eq_of_slab? present, get_columns descended.small inside, place,
    descended.below _ (by omega), Array.length_toList]
  rfl

/-- In the cells of a column there is the light that goes straight down. -/
theorem levelAt_straightDown
    {sections : Array Palette}
    {voxel : Voxel}
    (inRange : voxel.InRange sections.size) :
    (straightDown properties sections).levelAt voxel =
      downlight properties sections voxel := by
  have descended := descended_descendSections properties sections.toList
  have slotLt : voxel.slot <
      (descendSections properties sections.toList).2.length := by
    rw [descended.length_eq]
    exact inRange.1
  obtain ⟨slab, known⟩ : ∃ slab,
      (descendSections properties sections.toList).2[voxel.slot]? =
        some slab :=
    ⟨_, List.getElem?_eq_getElem slotLt⟩
  have present : (straightDown properties sections).slab?
      (voxel.slot + 1) = some slab := by
    simp [straightDown, slab?, List.getElem?_append, slotLt,
      (List.getElem?_eq_some_iff.1 known).2]
  obtain ⟨-, xLt, yLt, zLt⟩ := inRange
  have inside : voxel.index < 4096 := by
    unfold Voxel.index cellIndex
    omega
  have layer : voxel.slot * 16 + voxel.index / 256 = voxel.height := by
    unfold Voxel.height Voxel.index cellIndex
    omega
  have place : voxel.index % 256 = voxel.z * 16 + voxel.x := by
    unfold Voxel.index cellIndex
    omega
  rw [levelAt, level_eq_of_slab? present,
    descended.inside voxel.slot slab known voxel.index inside, layer, place,
    Array.length_toList]
  rfl

end LightData

end VoxelRelay
