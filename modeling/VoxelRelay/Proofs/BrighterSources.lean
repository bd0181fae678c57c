import VoxelRelay.Proofs.LightReads

/-!
# Brighter sources give brighter light

Light grows with all that it comes from.  Where blocks filter less and give off
more, and where the neighbors are brighter next to the border, no cell of a
column of the same blocks is darker.  The floods of two such columns have little
in common: other cells wait, in another order, and other sections are passed
over.  But the light of the brighter column satisfies the inequalities of the
darker one, whose light is the least that does.
-/

namespace VoxelRelay

/--
By these properties every block filters at least as much, and gives off at
most as much.
-/
structure LightProperties.Dims (dim bright : LightProperties) : Prop where
  filter_le : ∀ id, bright.filter id ≤ dim.filter id
  emission_le : ∀ id, dim.emission id ≤ bright.emission id

/--
Neighbors that are nowhere brighter across the border of a column of `count`
sections.
-/
def FainterFaces
    (count : Nat)
    (first second : Sides (Option LightData)) : Prop :=
  ∀ direction slot a y, 0 < slot → slot ≤ count → a < 16 → y < 16 →
    faceLevel (first.get direction) direction.opposite slot a y ≤
      faceLevel (second.get direction) direction.opposite slot a y

/--
Two columns of the same cells, of which the first has nowhere brighter
neighbors.
-/
structure LightInput.FainterReads (first second : LightInput) : Prop where
  size_eq : first.sections.size = second.sections.size
  block_eq : ∀ voxel, voxel.InRange first.sections.size →
    blockOf first.sections voxel = blockOf second.sections voxel
  sky_le :
    FainterFaces first.sections.size first.neighborSky second.neighborSky
  border_le :
    FainterFaces first.sections.size first.neighborBlock second.neighborBlock

/-! ## Solutions -/

section

variable {dim bright : LightProperties} (dims : dim.Dims bright)
include dims

theorem LightProperties.Dims.cost_le (id : UInt32) :
    bright.cost id ≤ dim.cost id :=
  max_le_max le_rfl (dims.filter_le id)

/-- What is left of light on the way into a cell. -/
theorem LightProperties.Dims.sub_cost_le
    {faint strong : Nat}
    (le : faint ≤ strong)
    (id : UInt32) :
    faint - dim.cost id ≤ strong - bright.cost id :=
  (Nat.sub_le_sub_right le _).trans (Nat.sub_le_sub_left (dims.cost_le id) _)

/-- The least light is no brighter than any light that more is asked of. -/
theorem IsLeastLight.le_of_dims
    {sections others : Array Palette}
    {start levels otherStart brighter : Voxel → Nat}
    (least : IsLeastLight dim sections start levels)
    (solution : LightSolution bright others otherStart brighter)
    (sizes : sections.size = others.size)
    (blocks : ∀ voxel, voxel.InRange sections.size →
      blockOf sections voxel = blockOf others voxel)
    (starts : ∀ voxel, voxel.InRange sections.size →
      start voxel ≤ otherStart voxel)
    (voxel : Voxel)
    (inRange : voxel.InRange sections.size) :
    levels voxel ≤ brighter voxel := by
  apply least.le_solution brighter _ voxel inRange
  constructor
  · intro cell cellInRange
    exact (starts cell cellInRange).trans
      (solution.start_le cell (sizes ▸ cellInRange))
  · intro cell beside cellInRange besideInRange adjacent
    calc
      brighter beside - dim.cost (blockOf sections cell)
          ≤ brighter beside - bright.cost (blockOf others cell) := by
            rw [blocks cell cellInRange]
            exact dims.sub_cost_le le_rfl _
      _ ≤ brighter cell :=
            solution.spread_le cell beside (sizes ▸ cellInRange)
              (sizes ▸ besideInRange) adjacent

/--
A cell starts no brighter if neither its own level nor any across the border
is brighter.
-/
theorem startLevel_le_of_dims
    {sections others : Array Palette}
    {neighbors otherNeighbors : Sides (Option LightData)}
    {own otherOwn : Voxel → Nat}
    {voxel : Voxel}
    (block : blockOf sections voxel = blockOf others voxel)
    (border : ∀ direction,
      borderLevel neighbors voxel direction ≤
        borderLevel otherNeighbors voxel direction)
    (owns : own voxel ≤ otherOwn voxel) :
    startLevel dim sections neighbors own voxel ≤
      startLevel bright others otherNeighbors otherOwn voxel := by
  obtain ⟨ownLe, borderLe⟩ := startLevel_le_iff.1
    (le_refl (startLevel bright others otherNeighbors otherOwn voxel))
  apply startLevel_le_iff.2
  constructor
  · exact owns.trans ownLe
  · intro direction
    rw [block]
    exact (dims.sub_cost_le (border direction) _).trans (borderLe direction)

end

theorem FainterFaces.borderLevel_le
    {count : Nat}
    {first second : Sides (Option LightData)}
    (fainter : FainterFaces count first second)
    {voxel : Voxel}
    (inRange : voxel.InRange count)
    (direction : Direction) :
    borderLevel first voxel direction ≤
      borderLevel second voxel direction := by
  by_cases onFace : voxel.OnFace direction
  · obtain ⟨a, aLt, place⟩ := Flood.exists_faceVoxel_eq inRange onFace
    rw [place, borderLevel_faceVoxel, borderLevel_faceVoxel]
    exact fainter direction _ a _ (Nat.succ_pos _) inRange.1 aLt inRange.2.2.1
  · rw [borderLevel, if_neg onFace]
    exact Nat.zero_le _

/-! ## Brighter columns -/

namespace LightInput.FainterReads

variable
    {dim bright : LightProperties}
    {first second : LightInput}
    (fainter : first.FainterReads second)
    (dims : dim.Dims bright)
include fainter dims

/-- Light from the sky loses no less on its way down. -/
theorem sunlightAt_le
    {x z : Nat}
    (xLt : x < 16)
    (zLt : z < 16)
    (height : Nat) :
    sunlightAt dim first.sections x z height ≤
      sunlightAt bright second.sections x z height := by
  have lost : ∑ above ∈ Finset.Ico height (second.sections.size * 16),
        filterAt bright second.sections x z above ≤
      ∑ above ∈ Finset.Ico height (first.sections.size * 16),
        filterAt dim first.sections x z above := by
    rw [← fainter.size_eq]
    apply Finset.sum_le_sum
    intro above member
    have below := (Finset.mem_Ico.1 member).2
    have inRange :
        (Voxel.mk (above / 16) x (above % 16) z).InRange
          first.sections.size :=
            ⟨Nat.div_lt_of_lt_mul (Nat.mul_comm 16 _ ▸ below), xLt,
              Nat.mod_lt _ (by decide), zLt⟩
    rw [filterAt, filterAt, fainter.block_eq _ inRange]
    exact dims.filter_le _
  exact Nat.sub_le_sub_left lost _

section

variable (clear : dim.filter air = 0)
include clear

theorem downlightAt_le
    {x z : Nat}
    (xLt : x < 16)
    (zLt : z < 16)
    (height : Nat) :
    downlightAt dim first.sections x z height ≤
      downlightAt bright second.sections x z height := by
  have alsoClear : bright.filter air = 0 :=
    Nat.le_zero.1 (clear ▸ dims.filter_le air)
  rw [downlightAt_eq_sunlightAt clear _ xLt,
    downlightAt_eq_sunlightAt alsoClear _ xLt]
  exact fainter.sunlightAt_le dims xLt zLt height

theorem levelAt_skyLight_le
    {voxel : Voxel}
    (inRange : voxel.InRange first.sections.size) :
    (first.skyLight dim).levelAt voxel ≤
      (second.skyLight bright).levelAt voxel := by
  apply IsLeastLight.le_of_dims dims (skyLight_least dim first)
    (skyLight_least bright second).solution fainter.size_eq fainter.block_eq _
    voxel inRange
  intro cell cellInRange
  apply startLevel_le_of_dims dims (fainter.block_eq cell cellInRange)
  · exact fainter.sky_le.borderLevel_le cellInRange
  · exact fainter.downlightAt_le dims clear cellInRange.2.1 cellInRange.2.2.2
      cell.height

/--
No level of the sky light is brighter, from below the bottom to above the top.
-/
theorem level_skyLight_le (slot index : Nat) :
    (first.skyLight dim).level slot index ≤
      (second.skyLight bright).level slot index := by
  rcases Nat.lt_or_ge index 4096 with inside | outside
  · obtain ⟨place, ⟨-, xLt, yLt, zLt⟩, -, rfl⟩ :=
      Voxel.exists_index_eq (Nat.zero_lt_one) inside
    rcases Nat.lt_trichotomy slot (first.sections.size + 1) with
      lower | rfl | above
    · cases slot with
      | zero =>
          rw [Voxel.index, level_skyLight_zero dim first xLt yLt zLt,
            level_skyLight_zero bright second xLt yLt zLt]
          exact fainter.downlightAt_le dims clear xLt zLt 0
      | succ slot =>
          have inRange :
              (Voxel.mk slot place.x place.y place.z).InRange
                first.sections.size :=
                  ⟨Nat.lt_of_succ_lt_succ lower, xLt, yLt, zLt⟩
          exact fainter.levelAt_skyLight_le dims clear inRange
    · have top := slab?_skyLight_top bright second
      rw [← fainter.size_eq] at top
      rw [LightData.level_eq_of_slab? (slab?_skyLight_top dim first),
        LightData.level_eq_of_slab? top]
    · have absent : (first.skyLight dim).slab? slot = none := by
        have beyond : (first.skyLight dim).slabs.size ≤ slot :=
          (size_skyLight dim first).le.trans above
        rw [LightData.slab?, Array.getElem?_eq_none beyond]
        rfl
      rw [LightData.level_eq_zero_of_slab? absent]
      exact Nat.zero_le _
  · rw [LightData.level_eq_zero_of_outside _ slot outside]
    exact Nat.zero_le _

end

section

variable
    (cubes : ∀ palette ∈ first.sections, palette.SectionCube)
    (otherCubes : ∀ palette ∈ second.sections, palette.SectionCube)
include cubes otherCubes

theorem levelAt_blockLight_le
    {voxel : Voxel}
    (inRange : voxel.InRange first.sections.size) :
    (first.blockLight dim).levelAt voxel ≤
      (second.blockLight bright).levelAt voxel := by
  apply IsLeastLight.le_of_dims dims (blockLight_least dim first cubes)
    (blockLight_least bright second otherCubes).solution fainter.size_eq
    fainter.block_eq _ voxel
    inRange
  intro cell cellInRange
  apply startLevel_le_of_dims dims (fainter.block_eq cell cellInRange)
  · exact fainter.border_le.borderLevel_le cellInRange
  · rw [Flood.glow, Flood.glow, fainter.block_eq cell cellInRange]
    exact min_le_min (dims.emission_le _) le_rfl

/--
No level of the block light is brighter; a slab that is absent in the first is
dark.
-/
theorem level_blockLight_le (slot index : Nat) :
    (first.blockLight dim).level slot index ≤
      (second.blockLight bright).level slot index := by
  rcases Nat.lt_or_ge index 4096 with inside | outside
  · by_cases present : ((first.blockLight dim).slab? slot).isSome = true
    · obtain ⟨voxel, inRange, rfl, -⟩ :=
        (isSome_slab?_blockLight_iff dim cubes).1 present
      obtain ⟨place, placeInRange, slots, rfl⟩ :=
        Voxel.exists_index_eq inRange.1 inside
      rw [← slots]
      exact fainter.levelAt_blockLight_le dims cubes otherCubes placeInRange
    · rw [LightData.level_eq_zero_of_slab?
        (Option.not_isSome_iff_eq_none.1 present)]
      exact Nat.zero_le _
  · rw [LightData.level_eq_zero_of_outside _ slot outside]
    exact Nat.zero_le _

end

end LightInput.FainterReads

namespace LightInput

/--
Light grows with its sources.  Take two columns of the same cells, where the
neighbors of the second are nowhere darker across the border, where blocks
filter no more and give off no less in it, and where air filters nothing: then
no level of light in the second is darker than in the first.
-/
theorem light_le_of_fainterReads
    {dim bright : LightProperties}
    {first second : LightInput}
    (clear : dim.filter air = 0)
    (dims : dim.Dims bright)
    (fainter : first.FainterReads second)
    (cubes : ∀ palette ∈ first.sections, palette.SectionCube)
    (otherCubes : ∀ palette ∈ second.sections, palette.SectionCube)
    (slot index : Nat) :
    (first.light dim).sky.level slot index ≤
      (second.light bright).sky.level slot index ∧
      (first.light dim).block.level slot index ≤
        (second.light bright).block.level slot index :=
  ⟨fainter.level_skyLight_le dims clear slot index,
    fainter.level_blockLight_le dims cubes otherCubes slot index⟩

/-! ## A lamp behind shades -/

/-- Lamps that give off less light, amid blocks that filter some of it. -/
def shadedProperties : LightProperties where
  filter := fun id => if id = air then 0 else 3
  emission := fun id => if id = 2 then 9 else 0

/--
A lamp in the air, stored with a spare entry, east of a column in full light.
-/
def lampByDay : LightInput :=
  { lampBesideBright with
    neighborLight := .ofFn fun direction =>
      if direction = .west then
        some
          ⟨⟨#[some .full, some .full, some .full]⟩,
            ⟨#[some .full, some .full, some .full]⟩⟩
      else none }

theorem shadedProperties_dims : shadedProperties.Dims lampProperties where
  filter_le := fun _ => Nat.zero_le _
  emission_le := by
    intro id
    unfold shadedProperties lampProperties
    dsimp only
    split <;> decide

theorem fainterReads_lampByDay :
    (isolated #[lampAt 8 8 8]).FainterReads lampByDay where
  size_eq := sameReads_lampBesideBright.size_eq
  block_eq := sameReads_lampBesideBright.block_eq
  sky_le := by
    intro direction slot a y _ _ _ _
    cases direction <;> exact Nat.zero_le _
  border_le := by
    intro direction slot a y _ _ _ _
    cases direction <;> exact Nat.zero_le _

theorem light_le_lampByDay :
    shadedProperties.filter air = 0 ∧ shadedProperties.Dims lampProperties ∧
      (isolated #[lampAt 8 8 8]).FainterReads lampByDay ∧
      (∀ palette ∈ (isolated #[lampAt 8 8 8]).sections, palette.SectionCube) ∧
      (∀ palette ∈ lampByDay.sections, palette.SectionCube) ∧
      ((isolated #[lampAt 8 8 8]).light shadedProperties).block.level 1
        (cellIndex 0 8 8) ≤
        (lampByDay.light lampProperties).block.level 1 (cellIndex 0 8 8) := by
  have cube : (lampAt 8 8 8).SectionCube :=
    sectionCube_lampAt (by decide) (by decide) (by decide)
  have plain : ∀ palette ∈ (isolated #[lampAt 8 8 8]).sections,
      palette.SectionCube :=
    cube.forall_mem_singleton
  have spare : ∀ palette ∈ lampByDay.sections, palette.SectionCube :=
    (cube.extended 3).forall_mem_singleton
  exact ⟨rfl, shadedProperties_dims, fainterReads_lampByDay, plain, spare,
    (light_le_of_fainterReads rfl shadedProperties_dims fainterReads_lampByDay
      plain spare 1 (cellIndex 0 8 8)).2⟩

end LightInput

end VoxelRelay
