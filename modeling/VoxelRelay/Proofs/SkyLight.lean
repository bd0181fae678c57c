import VoxelRelay.Proofs.BorderLight
import VoxelRelay.Proofs.FloodSettling
import VoxelRelay.Proofs.Sunlight

/-!
# Sky light is the least light from the sky and the neighbors

Of the cells that light reaches straight down, only those join the queue that
have a darker one beside them.  The others have nothing to spread: above and
below a cell the sunlight differs by what the lower one filters, so that no
offer up or down leaves anything brighter than what is there.
-/

namespace VoxelRelay

/-! ## Cells with a darker side -/

theorem hasDarkerSide_of_beside
    {count : Nat}
    {slab : LightSlab}
    {voxel other : Voxel}
    (inRange : voxel.InRange count)
    (otherInRange : other.InRange count)
    (slots : other.slot = voxel.slot)
    (ys : other.y = voxel.y)
    (beside : other.Adjacent voxel)
    (darker : slab.get other.index + 1 < slab.get voxel.index) :
    hasDarkerSide slab voxel (slab.get voxel.index) = true := by
  obtain ⟨-, xLt, yLt, zLt⟩ := inRange
  obtain ⟨-, otherXLt, -, otherZLt⟩ := otherInRange
  unfold hasDarkerSide
  simp only [Bool.or_eq_true, Bool.and_eq_true, decide_eq_true_eq]
  unfold Voxel.Adjacent Voxel.height at beside
  -- Up and down are no sides, so only the four directions are left.
  rcases beside with ⟨-, zs, toEast | toWest⟩ | ⟨-, -, above | below⟩ |
    ⟨-, xs, toSouth | toNorth⟩
  · have position : other.index = voxel.index - 1 := by
      unfold Voxel.index cellIndex
      omega
    rw [position] at darker
    exact Or.inl (Or.inl (Or.inl ⟨by omega, darker⟩))
  · have position : other.index = voxel.index + 1 := by
      unfold Voxel.index cellIndex
      omega
    rw [position] at darker
    exact Or.inl (Or.inl (Or.inr ⟨by omega, darker⟩))
  · omega
  · omega
  · have position : other.index = voxel.index - 16 := by
      unfold Voxel.index cellIndex
      omega
    rw [position] at darker
    exact Or.inl (Or.inr ⟨by omega, darker⟩)
  · have position : other.index = voxel.index + 16 := by
      unfold Voxel.index cellIndex
      omega
    rw [position] at darker
    exact Or.inr ⟨by omega, darker⟩

/-- No cell that could spread light to its side is passed over. -/
theorem mem_brightEdges
    {count : Nat}
    {slab : LightSlab}
    {voxel other : Voxel}
    (inRange : voxel.InRange count)
    (otherInRange : other.InRange count)
    (slots : other.slot = voxel.slot)
    (ys : other.y = voxel.y)
    (beside : other.Adjacent voxel)
    (darker : slab.get other.index + 1 < slab.get voxel.index) :
    voxel ∈ brightEdges slab voxel.slot := by
  unfold brightEdges
  split
  · next same =>
      have equal :=
        LightSlab.get_eq_of_isUniform same (Voxel.index_lt otherInRange)
          (Voxel.index_lt inRange)
      omega
  · refine List.mem_filter.2 ⟨Voxel.mem_ofSection_iff.2 ⟨rfl, inRange.2⟩, ?_⟩
    have bright : 1 < slab.get voxel.index := by omega
    simp only [Bool.and_eq_true, decide_eq_true_eq]
    exact ⟨bright,
      hasDarkerSide_of_beside inRange otherInRange slots ys beside darker⟩

theorem inRange_of_mem_brightEdges
    {count slot : Nat}
    {slab : LightSlab}
    {voxel : Voxel}
    (slotLt : slot < count)
    (member : voxel ∈ brightEdges slab slot) :
    voxel.InRange count := by
  unfold brightEdges at member
  split at member
  · cases member
  · obtain ⟨rfl, inside⟩ :=
      Voxel.mem_ofSection_iff.1 (List.mem_filter.1 member).1
    exact ⟨slotLt, inside⟩

namespace Flood

/-- The cells of a slot from which light can spread to the side. -/
def slotEdges (light : LightData) (slot : Nat) : List Voxel :=
  match light.slab? (slot + 1) with
  | some slab => brightEdges slab slot
  | none => []

theorem light_foldl_push
    (voxels : List Voxel)
    (flood : Flood) :
    (voxels.foldl push flood).light = flood.light := by
  induction voxels generalizing flood with
  | nil => rfl
  | cons voxel rest ih => exact ih (flood.push voxel)

theorem waiting_foldl_push
    (voxels : List Voxel)
    (flood : Flood) :
    (voxels.foldl push flood).waiting.toList =
      flood.waiting.toList ++ voxels := by
  induction voxels generalizing flood with
  | nil => exact (List.append_nil _).symm
  | cons voxel rest ih =>
      have later := ih (flood.push voxel)
      rw [push, Fifo.toList_push, List.append_assoc] at later
      exact later

/-- Joining the queue changes no light, and so not what else is to join. -/
theorem pushBrightEdges_eq
    (flood : Flood)
    (count : Nat) :
    flood.pushBrightEdges count =
      ((List.range count).flatMap (slotEdges flood.light)).foldl
        push flood := by
  have edges : ∀ (slots : List Nat) (before : Flood),
    before.light = flood.light →
      slots.foldl (fun before slot =>
        match before.light.slab? (slot + 1) with
        | some slab => (brightEdges slab slot).foldl push before
        | none => before) before =
      (slots.flatMap (slotEdges flood.light)).foldl push before := by
    intro slots
    induction slots with
    | nil => exact fun _ _ => rfl
    | cons slot rest ih =>
        intro before same
        rw [List.flatMap_cons, List.foldl_append, List.foldl_cons, slotEdges,
          same]
        cases flood.light.slab? (slot + 1) with
        | none => exact ih before same
        | some slab => exact ih _ ((light_foldl_push _ before).trans same)
  unfold pushBrightEdges
  rw [fold_eq_foldl_range]
  exact edges (List.range count) flood rfl

theorem light_pushBrightEdges
    (flood : Flood)
    (count : Nat) :
    (flood.pushBrightEdges count).light = flood.light := by
  rw [pushBrightEdges_eq, light_foldl_push]

theorem mem_waiting_pushBrightEdges_iff
    {flood : Flood}
    {count : Nat}
    {voxel : Voxel} :
    voxel ∈ (flood.pushBrightEdges count).waiting.toList ↔
      voxel ∈ flood.waiting.toList ∨ ∃ slot, slot < count ∧
        voxel ∈ slotEdges flood.light slot := by
  rw [pushBrightEdges_eq, waiting_foldl_push, List.mem_append,
    List.mem_flatMap]
  simp only [List.mem_range]

theorem Fits.pushBrightEdges
    {count : Nat}
    {flood : Flood}
    (fits : flood.Fits count) :
    (flood.pushBrightEdges count).Fits count where
  size_eq := by
    rw [light_pushBrightEdges, fits.size_eq]
  waiting_inRange := by
    intro voxel waits
    rcases mem_waiting_pushBrightEdges_iff.1 waits with
      before | ⟨slot, slotLt, member⟩
    · exact fits.waiting_inRange voxel before
    · unfold slotEdges at member
      split at member
      · exact inRange_of_mem_brightEdges slotLt member
      · cases member

/-- A cell beside which it is darker by more than one level joins the queue. -/
theorem waiting_pushBrightEdges_of_darker
    {count : Nat}
    {flood : Flood}
    {voxel other : Voxel}
    (inRange : voxel.InRange count)
    (otherInRange : other.InRange count)
    (heights : other.height = voxel.height)
    (beside : other.Adjacent voxel)
    (darker : flood.light.levelAt other + 1 < flood.light.levelAt voxel) :
    voxel ∈ (flood.pushBrightEdges count).waiting.toList := by
  have place : other.slot = voxel.slot ∧ other.y = voxel.y := by
    obtain ⟨-, -, yLt, -⟩ := inRange
    obtain ⟨-, -, otherYLt, -⟩ := otherInRange
    unfold Voxel.height at heights
    omega
  unfold LightData.levelAt at darker
  rw [place.1] at darker
  refine mem_waiting_pushBrightEdges_iff.2
    (Or.inr ⟨voxel.slot, inRange.1, ?_⟩)
  unfold slotEdges
  cases presence : flood.light.slab? (voxel.slot + 1) with
  | none =>
      rw [LightData.level_eq_zero_of_slab? presence voxel.index] at darker
      omega
  | some slab =>
      rw [LightData.level_eq_of_slab? presence,
        LightData.level_eq_of_slab? presence] at darker
      exact mem_brightEdges inRange otherInRange place.1 place.2 beside darker

end Flood

/-! ## The light of the sky -/

namespace LightInput

/-- The sky light of the neighbors. -/
def neighborSky (input : LightInput) : Sides (Option LightData) :=
  input.neighborLight.map fun light => light.map ColumnLight.sky

/--
The level at which a cell starts: its sunlight, or the sky light next to it.
-/
def skyStart
    (properties : LightProperties)
    (input : LightInput) : Voxel → Nat :=
  startLevel properties input.sections input.neighborSky
    (sunlight properties input.sections)

/-- Light that goes straight down and what comes in over the border. -/
def skyLit (properties : LightProperties) (input : LightInput) : Flood :=
  (Flood.still (.straightDown properties input.sections)).inject
    properties input.sections input.neighborSky

/-- The flood that settles at the sky light of a column. -/
def skyFlood (properties : LightProperties) (input : LightInput) : Flood :=
  (input.skyLit properties).pushBrightEdges input.sections.size

section

variable (properties : LightProperties) (input : LightInput)

theorem fits_still_straightDown :
    (Flood.still (.straightDown properties input.sections)).Fits
      input.sections.size where
  size_eq := LightData.size_straightDown properties input.sections
  waiting_inRange := fun _ waits => absurd waits List.not_mem_nil

theorem extends_skyLit :
    Flood.Extends input.sections.size
      (Flood.still (.straightDown properties input.sections))
      (input.skyLit properties) :=
  Flood.extends_inject properties (fits_still_straightDown properties input) _

theorem fits_skyFlood :
    (input.skyFlood properties).Fits input.sections.size :=
  (extends_skyLit properties input).fits.pushBrightEdges

theorem brightens_skyFlood :
    Flood.Brightens input.sections.size
      (.straightDown properties input.sections)
      (input.skyFlood properties).light := by
  unfold skyFlood
  rw [Flood.light_pushBrightEdges]
  exact (extends_skyLit properties input).toBrightens

theorem levelAt_skyFlood
    {voxel : Voxel}
    (inRange : voxel.InRange input.sections.size) :
    (input.skyFlood properties).light.levelAt voxel =
      startLevel properties input.sections input.neighborSky
        (downlight properties input.sections) voxel := by
  unfold skyFlood skyLit
  rw [Flood.light_pushBrightEdges,
    Flood.levelAt_inject (fits_still_straightDown properties input) _ inRange]
  unfold startLevel
  congr 1
  exact LightData.levelAt_straightDown properties inRange

/--
Every cell from which light can spread waits, though only sides are looked at.
-/
theorem spreads_skyFlood :
    (input.skyFlood properties).SpreadsFromWaiting properties
      input.sections := by
  intro voxel other inRange otherInRange adjacent still
  have grown := extends_skyLit properties input
  have levels : (input.skyFlood properties).light =
      (input.skyLit properties).light :=
    Flood.light_pushBrightEdges _ _
  have sunny : downlight properties input.sections voxel ≤
      (input.skyLit properties).light.levelAt voxel := by
    rw [← LightData.levelAt_straightDown properties inRange]
    exact grown.level_le voxel inRange
  have unlit : (input.skyLit properties).light.levelAt other =
      downlight properties input.sections other := by
    rw [← LightData.levelAt_straightDown properties otherInRange]
    apply grown.levelAt_eq_of_not_waiting otherInRange
    exact fun waits =>
      still (Flood.mem_waiting_pushBrightEdges_iff.2 (Or.inl waits))
  rw [levels]
  by_cases heights : voxel.height = other.height
  · -- Beside each other, the brighter cell waits unless one level is all
    -- there is between them.
    have positive := Flood.cost_pos properties (blockOf input.sections voxel)
    by_contra brighter
    apply still
    apply Flood.waiting_pushBrightEdges_of_darker otherInRange inRange
      heights adjacent
    omega
  · rw [unlit]
    rcases adjacent with ⟨same, -⟩ | ⟨xs, zs, above | below⟩ | ⟨same, -⟩
    · exact absurd same heights
    · exact (downlight_below properties inRange xs zs above).2.trans sunny
    · calc
        downlight properties input.sections other -
              properties.cost (blockOf input.sections voxel)
            ≤ downlight properties input.sections other := Nat.sub_le _ _
        _ ≤ downlight properties input.sections voxel :=
              (downlight_below properties otherInRange xs.symm
                zs.symm below).1
        _ ≤ _ := sunny
    · exact absurd same heights

theorem brightens_skyLight :
    Flood.Brightens input.sections.size
      (.straightDown properties input.sections) (input.skyLight properties) :=
  (brightens_skyFlood properties input).trans
    (Flood.brightens_settle (fits_skyFlood properties input)
      (spreads_skyFlood properties input))

theorem size_skyLight :
    (input.skyLight properties).size = input.sections.size + 2 :=
  Flood.size_settle (fits_skyFlood properties input)
    (spreads_skyFlood properties input)

/--
Sky light is the least above the light that goes straight down and that of the
neighbors.
-/
theorem skyLight_least :
    IsLeastLight properties input.sections
      (startLevel properties input.sections input.neighborSky
        (downlight properties input.sections))
      (input.skyLight properties).levelAt :=
  (Flood.settle_isLeastLight (fits_skyFlood properties input)
    (spreads_skyFlood properties input)).congr_start
      fun _ inRange => levelAt_skyFlood properties input inRange

/-- Where nothing filters light, all cells are as bright as the sky. -/
theorem maxLevel_le_levelAt_skyLight
    (clear : ∀ id, properties.filter id = 0)
    {voxel : Voxel}
    (inRange : voxel.InRange input.sections.size) :
    maxLevel ≤ (input.skyLight properties).levelAt voxel := by
  have starts :=
    (skyLight_least properties input).solution.start_le voxel inRange
  have down : downlight properties input.sections voxel = maxLevel := by
    rw [downlight, downlightAt_eq_sunlightAt (clear air) _ inRange.2.1]
    simp only [sunlightAt, filterAt, clear, Finset.sum_const_zero,
      Nat.sub_zero]
  exact down ▸ (startLevel_le_iff.1 starts).1

theorem slab?_skyLight_top :
    (input.skyLight properties).slab? (input.sections.size + 1) =
      some LightSlab.full :=
  ((brightens_skyLight properties input).outside_eq _
    (Or.inr (Nat.lt_succ_self _))).trans
    (LightData.slab?_straightDown_top properties input.sections)

theorem level_skyLight_zero
    {x y z : Nat}
    (xLt : x < 16)
    (yLt : y < 16)
    (zLt : z < 16) :
    (input.skyLight properties).level 0 (cellIndex x y z) =
      downlightAt properties input.sections x z 0 := by
  rw [← LightData.level_straightDown_zero properties input.sections
    xLt yLt zLt]
  exact LightData.level_congr
    ((brightens_skyLight properties input).outside_eq 0 (Or.inl rfl)) _

end

/--
Sky light is the least light in which each cell has at least its sunlight and
what is left of the sky light next to it, in the column and across its border.
The slab above the top is at the brightest level; in the slab below the bottom
there is what the whole column leaves of the light from the sky.
-/
theorem skyLight_isLeastLight
    {properties : LightProperties}
    (clear : properties.filter air = 0)
    (input : LightInput) :
    IsLeastLight properties input.sections (input.skyStart properties)
        (input.skyLight properties).levelAt ∧
      (input.skyLight properties).size = input.sections.size + 2 ∧
      (∀ x y z, x < 16 → y < 16 → z < 16 →
        (input.skyLight properties).level (input.sections.size + 1)
          (cellIndex x y z) =
          maxLevel) ∧
      (∀ x y z, x < 16 → y < 16 → z < 16 →
        (input.skyLight properties).level 0 (cellIndex x y z) =
          sunlightAt properties input.sections x z 0) := by
  refine ⟨?_, size_skyLight properties input, ?_, ?_⟩
  · apply (skyLight_least properties input).congr_start
    intro voxel inRange
    unfold skyStart startLevel
    congr 1
    exact downlightAt_eq_sunlightAt clear input.sections inRange.2.1 _ _
  · intro x y z xLt yLt zLt
    rw [LightData.level_eq_of_slab? (slab?_skyLight_top properties input)]
    apply LightSlab.get_uniform
    unfold cellIndex
    omega
  · intro x y z xLt yLt zLt
    rw [level_skyLight_zero properties input xLt yLt zLt,
      downlightAt_eq_sunlightAt clear input.sections xLt]

/-! ## Air over stone -/

/-- The light properties of stone, which lets no light through, amid air. -/
def stoneProperties : LightProperties where
  filter := fun id => if id = 1 then 15 else 0
  emission := fun _ => 0

/-- A section of stone under a section of air. -/
def airOverStone : LightInput :=
  isolated #[.blocks 1, .blocks air]

theorem skyLight_airOverStone :
    stoneProperties.filter air = 0 ∧
      IsLeastLight stoneProperties airOverStone.sections
        (airOverStone.skyStart stoneProperties)
        (airOverStone.skyLight stoneProperties).levelAt ∧
      (airOverStone.skyLight stoneProperties).level 3 (cellIndex 8 8 8) = 15 ∧
      (airOverStone.skyLight stoneProperties).level 0 (cellIndex 8 8 8) =
        sunlightAt stoneProperties airOverStone.sections 8 8 0 := by
  have clear : stoneProperties.filter air = 0 := rfl
  obtain ⟨least, -, top, bottom⟩ := skyLight_isLeastLight clear airOverStone
  exact ⟨clear, least, top 8 8 8 (by decide) (by decide) (by decide),
    bottom 8 8 8 (by decide) (by decide) (by decide)⟩

end LightInput

end VoxelRelay
