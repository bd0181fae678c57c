import VoxelRelay.Proofs.BlockLight
import VoxelRelay.Proofs.SkyLight

/-!
# Which slabs computed light has

Computed light has one form only.  All slabs of sky light are there; of block
light there are those that hold a level other than zero.  An offer puts a slab
in place before it compares levels, yet it leaves none dark: what it has left
is light, and brighter than a slab that was not there before.  So two columns
with the same levels have the same light, not only the same levels.  What the
levels are read from is the blocks of the cells, what light loses on its way
down, and the light across the border; columns that agree in this have the
same light.
-/

namespace VoxelRelay

namespace Flood

/-- Every slab that is there holds light in a cell of the column. -/
def NoneDark (count : Nat) (light : LightData) : Prop :=
  ∀ slot, (light.slab? slot).isSome = true →
    ∃ voxel, voxel.InRange count ∧ voxel.slot + 1 = slot ∧
      0 < light.levelAt voxel

theorem noneDark_empty (count : Nat) : NoneDark count (.empty count) := by
  intro slot present
  rw [LightData.slab?_empty] at present
  cases present

variable {count : Nat}

/-- A slab that is there for a raised cell holds the light of that cell. -/
theorem NoneDark.raise
    {flood : Flood}
    (noneDark : NoneDark count flood.light)
    (fits : flood.Fits count)
    {voxel : Voxel}
    (inRange : voxel.InRange count)
    {level : Nat}
    (positive : 0 < level)
    (small : level < 16) :
    NoneDark count (flood.raise voxel level).light := by
  intro slot present
  rcases (LightData.isSome_slab?_setLevel_iff _
    (fits.slot_lt inRange) _ _ _).1 present with rfl | before
  · refine ⟨voxel, inRange, rfl, ?_⟩
    rwa [levelAt_raise fits inRange inRange small, if_pos rfl]
  · obtain ⟨other, otherInRange, place, lit⟩ := noneDark slot before
    refine ⟨other, otherInRange, place, ?_⟩
    rw [levelAt_raise fits inRange otherInRange small]
    split
    · exact positive
    · exact lit

theorem NoneDark.raiseAll
    {flood : Flood}
    (noneDark : NoneDark count flood.light)
    (fits : flood.Fits count)
    {level : Voxel → Nat}
    {voxels : List Voxel}
    (raised : ∀ voxel ∈ voxels, voxel.InRange count ∧ 0 < level voxel ∧
      level voxel < 16) :
    NoneDark count (flood.raiseAll level voxels).light := by
  induction voxels generalizing flood with
  | nil => exact noneDark
  | cons voxel rest ih =>
      obtain ⟨inRange, positive, small⟩ := raised voxel List.mem_cons_self
      exact ih (noneDark.raise fits inRange positive small)
        (fits.raise inRange _)
        fun later member => raised later (List.mem_cons_of_mem _ member)

/-- Slabs that come with light leave none dark. -/
theorem Brightens.noneDark
    {before after : LightData}
    (grown : Brightens count before after)
    (noneDark : NoneDark count before) :
    NoneDark count after := by
  intro slot present
  rcases grown.lit_of_present slot present with earlier | lit
  · obtain ⟨voxel, inRange, place, lit⟩ := noneDark slot earlier
    exact ⟨voxel, inRange, place,
      lt_of_lt_of_le lit (grown.level_le voxel inRange)⟩
  · exact lit

/-- No offer leaves a dark slab behind, whatever its level and its cost. -/
theorem NoneDark.offer
    {flood : Flood}
    (noneDark : NoneDark count flood.light)
    (fits : flood.Fits count)
    (properties : LightProperties)
    (sections : Array Palette)
    {voxel : Voxel}
    (inRange : voxel.InRange count)
    {level : Nat}
    (small : level < 16) :
    NoneDark count (flood.offer properties sections level voxel).light :=
  (extends_offer properties sections fits inRange small).noneDark noneDark

end Flood

namespace LightInput

variable (properties : LightProperties) {input : LightInput}

theorem isSome_slab?_skyLight
    {slot : Nat}
    (inside : slot < input.sections.size + 2) :
    ((input.skyLight properties).slab? slot).isSome = true :=
  (brightens_skyLight properties input).present_of_present slot
    (LightData.isSome_slab?_straightDown properties input.sections inside)

section

variable (cubes : ∀ palette ∈ input.sections, palette.SectionCube)
include cubes

theorem brightens_blockLight :
    Flood.Brightens input.sections.size
      ((Flood.still (.empty input.sections.size)).ignite properties
        input.sections).light
      (input.blockLight properties) :=
  (Flood.extends_inject properties (fits_ignite properties cubes)
    _).toBrightens.trans
    (Flood.brightens_settle (fits_blockFlood cubes)
      (spreads_blockFlood cubes))

/--
A slab of block light is there exactly when some cell of its section is lit.
-/
theorem isSome_slab?_blockLight_iff {slot : Nat} :
    ((input.blockLight properties).slab? slot).isSome = true ↔
      ∃ voxel, voxel.InRange input.sections.size ∧ voxel.slot + 1 = slot ∧
        0 < (input.blockLight properties).levelAt voxel := by
  have grown := brightens_blockLight properties cubes
  constructor
  · intro present
    refine grown.noneDark ?_ slot present
    rw [Flood.ignite_eq cubes]
    refine (Flood.noneDark_empty _).raiseAll (fits_still_empty _) ?_
    intro voxel glows
    obtain ⟨inRange, emits⟩ := Flood.mem_allGlowing_iff.1 glows
    exact ⟨inRange, Nat.lt_min.2 ⟨emits, by decide⟩, Flood.glow_lt _ _ _⟩
  · rintro ⟨voxel, inRange, rfl, lit⟩
    exact LightData.isSome_slab?_of_lit lit

end

/-! ## Columns with the same levels -/

variable {properties} {first second : LightInput}

/--
Sky light is known by its levels in the column and by what goes straight down.
-/
theorem skyLight_eq_of_levels
    (same_size : first.sections.size = second.sections.size)
    (down : ∀ x z, x < 16 → z < 16 →
      downlightAt properties first.sections x z 0 =
        downlightAt properties second.sections x z 0)
    (levels : ∀ voxel, voxel.InRange first.sections.size →
      (first.skyLight properties).levelAt voxel =
        (second.skyLight properties).levelAt voxel) :
    first.skyLight properties = second.skyLight properties := by
  have sizes := size_skyLight properties first
  have otherSizes := size_skyLight properties second
  rw [← same_size] at otherSizes
  apply LightData.ext_level (sizes.trans otherSizes.symm)
  · intro slot inside
    rw [sizes] at inside
    have there := isSome_slab?_skyLight properties inside
    rw [same_size] at inside
    exact iff_of_true there (isSome_slab?_skyLight properties inside)
  · intro slot index slotLt inside
    rw [sizes] at slotLt
    obtain ⟨x, y, z, xLt, yLt, zLt, rfl⟩ : ∃ x y z, x < 16 ∧ y < 16 ∧ z < 16 ∧
        cellIndex x y z = index := by
      refine ⟨index % 16, index / 256, index / 16 % 16, by omega, by omega,
        by omega, ?_⟩
      unfold cellIndex
      omega
    rcases Nat.lt_trichotomy slot (first.sections.size + 1) with
      lower | top | above
    · cases slot with
      | zero =>
          rw [level_skyLight_zero properties first xLt yLt zLt,
            level_skyLight_zero properties second xLt yLt zLt,
            down x z xLt zLt]
      | succ slot =>
          exact levels ⟨slot, x, y, z⟩
            ⟨Nat.lt_of_succ_lt_succ lower, xLt, yLt, zLt⟩
    · have otherTop := top
      rw [same_size] at otherTop
      rw [LightData.level_eq_of_slab?
        (top ▸ slab?_skyLight_top properties first),
        LightData.level_eq_of_slab?
          (otherTop ▸ slab?_skyLight_top properties second)]
    · omega

/-- Block light is known by its levels in the column. -/
theorem blockLight_eq_of_levels
    (same_size : first.sections.size = second.sections.size)
    (firstCubes : ∀ palette ∈ first.sections, palette.SectionCube)
    (secondCubes : ∀ palette ∈ second.sections, palette.SectionCube)
    (levels : ∀ voxel, voxel.InRange first.sections.size →
      (first.blockLight properties).levelAt voxel =
        (second.blockLight properties).levelAt voxel) :
    first.blockLight properties = second.blockLight properties := by
  have presence : ∀ slot,
    ((first.blockLight properties).slab? slot).isSome = true ↔
      ((second.blockLight properties).slab? slot).isSome = true := by
    intro slot
    rw [isSome_slab?_blockLight_iff properties firstCubes,
      isSome_slab?_blockLight_iff properties secondCubes, ← same_size]
    refine exists_congr fun voxel => and_congr_right fun inRange => ?_
    rw [levels voxel inRange]
  have sizes := size_blockLight properties first firstCubes
  have otherSizes := size_blockLight properties second secondCubes
  rw [← same_size] at otherSizes
  apply LightData.ext_level (sizes.trans otherSizes.symm) fun slot _ =>
    presence slot
  intro slot index _ inside
  by_cases present : ((first.blockLight properties).slab? slot).isSome = true
  · obtain ⟨voxel, inRange, rfl, -⟩ :=
      (isSome_slab?_blockLight_iff properties firstCubes).1 present
    obtain ⟨place, placeInRange, slots, rfl⟩ :=
      Voxel.exists_index_eq inRange.1 inside
    rw [← slots]
    exact levels place placeInRange
  · have absent := Option.not_isSome_iff_eq_none.1 present
    rw [presence] at present
    rw [LightData.level_eq_zero_of_slab? absent,
      LightData.level_eq_zero_of_slab?
        (Option.not_isSome_iff_eq_none.1 present)]

/-! ## Columns with the same sources of light -/

variable (properties) in
/-- Two columns agree in all that their light is computed from. -/
structure SameSources (first second : LightInput) : Prop where
  size_eq : first.sections.size = second.sections.size
  block_eq : ∀ voxel, voxel.InRange first.sections.size →
    blockOf first.sections voxel = blockOf second.sections voxel
  loss_eq : ∀ place height, place < 256 → height < first.sections.size * 16 →
    stackLoss properties first.sections.toList place height =
      stackLoss properties second.sections.toList place height
  sky_eq : ∀ voxel, voxel.InRange first.sections.size → ∀ direction,
    borderLevel first.neighborSky voxel direction =
      borderLevel second.neighborSky voxel direction
  border_eq : ∀ voxel, voxel.InRange first.sections.size → ∀ direction,
    borderLevel first.neighborBlock voxel direction =
      borderLevel second.neighborBlock voxel direction

theorem startLevel_congr
    {left right : Array Palette}
    {leftNeighbors rightNeighbors : Sides (Option LightData)}
    {leftOwn rightOwn : Voxel → Nat}
    {voxel : Voxel}
    (block : blockOf left voxel = blockOf right voxel)
    (border : ∀ direction,
      borderLevel leftNeighbors voxel direction =
        borderLevel rightNeighbors voxel direction)
    (own : leftOwn voxel = rightOwn voxel) :
    startLevel properties left leftNeighbors leftOwn voxel =
      startLevel properties right rightNeighbors rightOwn voxel := by
  unfold startLevel
  rw [own]
  congr 1
  funext direction brightest
  rw [block, border direction]

theorem SameSources.downlightAt_eq
    (same : SameSources properties first second)
    {x z : Nat}
    (xLt : x < 16)
    (zLt : z < 16)
    (height : Nat) :
    downlightAt properties first.sections x z height =
      downlightAt properties second.sections x z height := by
  unfold downlightAt
  rw [← same.size_eq]
  congr 1
  apply Finset.sum_congr rfl
  intro above member
  exact same.loss_eq _ above (by omega) (Finset.mem_Ico.1 member).2

theorem SameSources.downlight_eq
    (same : SameSources properties first second)
    {voxel : Voxel}
    (inRange : voxel.InRange first.sections.size) :
    downlight properties first.sections voxel =
      downlight properties second.sections voxel :=
  same.downlightAt_eq inRange.2.1 inRange.2.2.2 voxel.height

/-- The inequalities of light are the same for columns of the same blocks. -/
theorem SameSources.least
    (same : SameSources properties first second)
    {start levels : Voxel → Nat}
    (least : IsLeastLight properties first.sections start levels) :
    IsLeastLight properties second.sections start levels := by
  have carried : ∀ {other : Voxel → Nat},
    LightSolution properties first.sections start other ↔
      LightSolution properties second.sections start other := by
    intro other
    constructor
    · intro solution
      refine ⟨fun voxel inRange =>
        ?_, fun voxel beside inRange besideInRange adjacent => ?_⟩
      all_goals rw [← same.size_eq] at *
      · exact solution.start_le voxel inRange
      · rw [← same.block_eq voxel inRange]
        exact solution.spread_le voxel beside inRange besideInRange adjacent
    · intro solution
      refine ⟨fun voxel inRange =>
        ?_, fun voxel beside inRange besideInRange adjacent => ?_⟩
      · exact solution.start_le voxel (same.size_eq ▸ inRange)
      · rw [same.block_eq voxel inRange]
        exact solution.spread_le voxel beside (same.size_eq ▸ inRange)
          (same.size_eq ▸ besideInRange) adjacent
  refine ⟨carried.1 least.solution, fun other solution voxel inRange => ?_⟩
  exact least.le_solution other (carried.2 solution) voxel
    (same.size_eq ▸ inRange)

theorem SameSources.skyLight_eq (same : SameSources properties first second) :
    first.skyLight properties = second.skyLight properties := by
  apply skyLight_eq_of_levels same.size_eq
  · exact fun x z xLt zLt => same.downlightAt_eq xLt zLt 0
  · intro voxel inRange
    -- In the cells of the column both are the least light above the same start.
    have least := same.least ((skyLight_least properties first).congr_start
      fun voxel inRange => startLevel_congr (same.block_eq voxel inRange)
        (same.sky_eq voxel inRange) (same.downlight_eq inRange))
    rw [same.size_eq] at inRange
    exact least.unique (skyLight_least properties second) voxel inRange

theorem SameSources.blockLight_eq
    (same : SameSources properties first second)
    (firstCubes : ∀ palette ∈ first.sections, palette.SectionCube)
    (secondCubes : ∀ palette ∈ second.sections, palette.SectionCube) :
    first.blockLight properties = second.blockLight properties := by
  apply blockLight_eq_of_levels same.size_eq firstCubes secondCubes
  intro voxel inRange
  have least :=
    same.least ((blockLight_least properties first firstCubes).congr_start
      fun voxel inRange => startLevel_congr (same.block_eq voxel inRange)
        (same.border_eq voxel inRange)
        (show Flood.glow properties first.sections voxel =
          Flood.glow properties second.sections voxel by
            unfold Flood.glow
            rw [same.block_eq voxel inRange]))
  rw [same.size_eq] at inRange
  exact least.unique (blockLight_least properties second secondCubes)
    voxel inRange

/-- Columns with the same sources of light have the same light. -/
theorem SameSources.light_eq
    (same : SameSources properties first second)
    (firstCubes : ∀ palette ∈ first.sections, palette.SectionCube)
    (secondCubes : ∀ palette ∈ second.sections, palette.SectionCube) :
    first.light properties = second.light properties := by
  unfold light
  rw [same.skyLight_eq, same.blockLight_eq firstCubes secondCubes]

end LightInput

end VoxelRelay
