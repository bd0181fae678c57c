import VoxelRelay.Light.Block
import VoxelRelay.Proofs.BorderLight
import VoxelRelay.Proofs.FloodSettling
import VoxelRelay.Proofs.PaletteCells

/-!
# Block light is the least light from emitters and neighbors

Kindling a column raises every cell that gives off light to its emission and
lets it wait; a section whose table has no emitter may be passed over, because
no cell can refer to one.  Together with what comes in over the border this is
a flood in which all light that can spread waits to spread, so it settles at
the least solution above it.
-/

namespace VoxelRelay

namespace Flood

/-! ## Raising a list of cells -/

/-- Raises each cell of a list to a level of its own. -/
def raiseAll
    (level : Voxel → Nat)
    (voxels : List Voxel)
    (flood : Flood) : Flood :=
  voxels.foldl (fun flood voxel => flood.raise voxel (level voxel)) flood

theorem fits_raiseAll
    {count : Nat}
    {flood : Flood}
    (fits : flood.Fits count)
    (level : Voxel → Nat)
    {voxels : List Voxel}
    (inRange : ∀ voxel ∈ voxels, voxel.InRange count) :
    (flood.raiseAll level voxels).Fits count := by
  induction voxels generalizing flood with
  | nil => exact fits
  | cons voxel rest ih =>
      exact ih (fits.raise (inRange voxel List.mem_cons_self) _)
        fun later member => inRange later (List.mem_cons_of_mem _ member)

theorem waiting_raiseAll
    (level : Voxel → Nat)
    (voxels : List Voxel)
    (flood : Flood) :
    (flood.raiseAll level voxels).waiting.toList =
      flood.waiting.toList ++ voxels := by
  induction voxels generalizing flood with
  | nil => exact (List.append_nil _).symm
  | cons voxel rest ih =>
      have later := ih (flood.raise voxel (level voxel))
      rw [waiting_raise, List.append_assoc] at later
      exact later

theorem levelAt_raiseAll
    {count : Nat}
    {flood : Flood}
    (fits : flood.Fits count)
    {level : Voxel → Nat}
    (small : ∀ voxel, level voxel < 16)
    {voxels : List Voxel}
    (inRange : ∀ voxel ∈ voxels, voxel.InRange count)
    {other : Voxel}
    (otherInRange : other.InRange count) :
    (flood.raiseAll level voxels).light.levelAt other =
      if other ∈ voxels then level other else flood.light.levelAt other := by
  induction voxels generalizing flood with
  | nil => simp [raiseAll]
  | cons voxel rest ih =>
      have here := inRange voxel List.mem_cons_self
      have later := ih (fits.raise here (level voxel))
        fun cell member => inRange cell (List.mem_cons_of_mem _ member)
      rw [levelAt_raise fits here otherInRange (small voxel)] at later
      refine Eq.trans later ?_
      by_cases inRest : other ∈ rest
      · simp [inRest]
      · by_cases same : other = voxel
        · simp [same]
        · simp [inRest, same]

/-! ## Kindling -/

/-- The cells of a section that give off light. -/
def glowing
    (properties : LightProperties)
    (palette : Palette)
    (slot : Nat) : List Voxel :=
  (Voxel.ofSection slot).filter fun voxel =>
    0 < properties.emission (palette.idAt voxel.x voxel.y voxel.z)

/-- The level at which the block of a cell lets it start. -/
def glow
    (properties : LightProperties)
    (sections : Array Palette)
    (voxel : Voxel) : Nat :=
  min (properties.emission (blockOf sections voxel)) maxLevel

theorem glow_lt
    (properties : LightProperties)
    (sections : Array Palette)
    (voxel : Voxel) :
    glow properties sections voxel < 16 :=
  lt_of_le_of_lt (Nat.min_le_right _ _) (by decide)

/--
Passing over a section without an emitter in its table passes over no cell
that glows.
-/
theorem igniteSection_eq
    {properties : LightProperties}
    {sections : Array Palette}
    {palette : Palette}
    {slot : Nat}
    (cube : palette.SectionCube)
    (known : sections[slot]? = some palette)
    (flood : Flood) :
    flood.igniteSection properties palette slot =
      flood.raiseAll (glow properties sections)
        (glowing properties palette slot) := by
  have block : ∀ voxel ∈ Voxel.ofSection slot,
      blockOf sections voxel = palette.idAt voxel.x voxel.y voxel.z := by
    intro voxel member
    apply blockOf_eq
    rwa [(Voxel.mem_ofSection_iff.1 member).1]
  unfold igniteSection
  split
  · unfold raiseAll glowing
    rw [List.foldl_filter]
    apply List.foldl_ext
    intro before voxel member
    simp only [glow, block voxel member, decide_eq_true_eq]
  · next none =>
      have empty : glowing properties palette slot = [] := by
        apply List.filter_eq_nil_iff.2
        intro voxel member
        obtain ⟨-, xLt, yLt, zLt⟩ := Voxel.mem_ofSection_iff.1 member
        have dark := cube.toWellFormed.not_test_of_not_anyId
          (Bool.eq_false_iff.2 none) (cube.cell_lt xLt yLt zLt)
        rw [Palette.idAt, dark]
        exact Bool.false_ne_true
      rw [empty]
      rfl

/-- All cells of a column that give off light. -/
def allGlowing
    (properties : LightProperties)
    (sections : Array Palette) : List Voxel :=
  sections.toList.zipIdx.flatMap fun entry =>
    glowing properties entry.1 entry.2

theorem mem_allGlowing_iff
    {properties : LightProperties}
    {sections : Array Palette}
    {voxel : Voxel} :
    voxel ∈ allGlowing properties sections ↔
      voxel.InRange sections.size ∧
        0 < properties.emission (blockOf sections voxel) := by
  unfold allGlowing glowing
  simp only [List.mem_flatMap, List.mem_filter, decide_eq_true_eq,
    Voxel.mem_ofSection_iff]
  constructor
  · rintro ⟨⟨palette, slot⟩, member, ⟨rfl, xLt, yLt, zLt⟩, lit⟩
    have known : sections[voxel.slot]? = some palette := by
      simpa using List.mk_mem_zipIdx_iff_getElem?.1 member
    have slotLt := (Array.getElem?_eq_some_iff.1 known).1
    exact ⟨⟨slotLt, xLt, yLt, zLt⟩, by rwa [blockOf_eq known]⟩
  · rintro ⟨⟨slotLt, xLt, yLt, zLt⟩, lit⟩
    have known : sections[voxel.slot]? = some sections[voxel.slot] :=
      Array.getElem?_eq_getElem slotLt
    refine ⟨(sections[voxel.slot], voxel.slot), ?_, ⟨rfl, xLt, yLt, zLt⟩, ?_⟩
    · exact List.mk_mem_zipIdx_iff_getElem?.2
        (by rw [Array.getElem?_toList, known])
    · rwa [blockOf_eq known] at lit

/--
Going through the sections while counting is going through them with their
slots.
-/
theorem ignite_eq_foldl
    (properties : LightProperties)
    (sections : Array Palette)
    (flood : Flood) :
    flood.ignite properties sections =
      sections.toList.zipIdx.foldl
        (fun before entry => before.igniteSection properties entry.1 entry.2)
        flood := by
  have counted : ∀ (palettes : List Palette) (slot : Nat) (before : Flood),
      (palettes.foldl (fun (state : Flood × Nat) palette =>
        (state.1.igniteSection properties palette state.2, state.2 + 1))
        (before, slot)).1 =
      (palettes.zipIdx slot).foldl
        (fun before entry => before.igniteSection properties entry.1 entry.2)
        before := by
    intro palettes
    induction palettes with
    | nil => exact fun _ _ => rfl
    | cons palette rest ih => exact fun slot before => ih (slot + 1) _
  unfold ignite
  rw [← Array.foldl_toList]
  exact counted sections.toList 0 flood

theorem ignite_eq
    {properties : LightProperties}
    {sections : Array Palette}
    (cubes : ∀ palette ∈ sections, palette.SectionCube)
    (flood : Flood) :
    flood.ignite properties sections =
      flood.raiseAll (glow properties sections)
        (allGlowing properties sections) := by
  rw [ignite_eq_foldl]
  unfold raiseAll allGlowing
  rw [List.foldl_flatMap]
  apply List.foldl_ext
  rintro before ⟨palette, slot⟩ member
  have known : sections[slot]? = some palette := by
    simpa using List.mk_mem_zipIdx_iff_getElem?.1 member
  exact igniteSection_eq (cubes palette (Array.mem_of_getElem? known))
    known before

end Flood

/-! ## The light of emitters -/

namespace LightInput

/-- The block light of the neighbors. -/
def neighborBlock (input : LightInput) : Sides (Option LightData) :=
  input.neighborLight.map fun light => light.map ColumnLight.block

/--
The level at which a cell starts: its emission, or the block light next to it.
-/
def blockStart
    (properties : LightProperties)
    (input : LightInput) : Voxel → Nat :=
  startLevel properties input.sections input.neighborBlock
    (Flood.glow properties input.sections)

theorem block_light
    (properties : LightProperties)
    (input : LightInput) :
    (input.light properties).block = input.blockLight properties := rfl

/-- The flood that settles at the block light of a column. -/
def blockFlood (properties : LightProperties) (input : LightInput) : Flood :=
  ((Flood.still (.empty input.sections.size)).ignite properties
    input.sections).inject
    properties input.sections input.neighborBlock

theorem fits_still_empty (count : Nat) :
    (Flood.still (.empty count)).Fits count where
  size_eq := LightData.size_empty count
  waiting_inRange := fun _ waits => absurd waits List.not_mem_nil

variable {properties : LightProperties} {input : LightInput}

theorem fits_ignite
    (properties : LightProperties)
    (cubes : ∀ palette ∈ input.sections, palette.SectionCube) :
    ((Flood.still (.empty input.sections.size)).ignite properties
      input.sections).Fits
      input.sections.size := by
  rw [Flood.ignite_eq cubes]
  exact Flood.fits_raiseAll (fits_still_empty _) _
    fun _ member => (Flood.mem_allGlowing_iff.1 member).1

/-- Kindling lets each cell start at its emission. -/
theorem levelAt_ignite
    (cubes : ∀ palette ∈ input.sections, palette.SectionCube)
    {voxel : Voxel}
    (inRange : voxel.InRange input.sections.size) :
    ((Flood.still (.empty input.sections.size)).ignite
        properties input.sections).light.levelAt voxel =
      Flood.glow properties input.sections voxel := by
  rw [Flood.ignite_eq cubes,
    Flood.levelAt_raiseAll (fits_still_empty _) (Flood.glow_lt _ _)
      (fun _ member => (Flood.mem_allGlowing_iff.1 member).1) inRange]
  split
  · rfl
  · next dull =>
      have noEmission :
          properties.emission (blockOf input.sections voxel) = 0 :=
        Nat.eq_zero_of_not_pos fun lit =>
          dull (Flood.mem_allGlowing_iff.2 ⟨inRange, lit⟩)
      rw [Flood.glow, noEmission, Nat.zero_min]
      exact LightData.level_empty _ _ _

theorem fits_blockFlood
    (cubes : ∀ palette ∈ input.sections, palette.SectionCube) :
    (input.blockFlood properties).Fits input.sections.size :=
  (Flood.extends_inject properties (fits_ignite properties cubes) _).fits

theorem levelAt_blockFlood
    (cubes : ∀ palette ∈ input.sections, palette.SectionCube)
    {voxel : Voxel}
    (inRange : voxel.InRange input.sections.size) :
    (input.blockFlood properties).light.levelAt voxel =
      input.blockStart properties voxel := by
  unfold blockFlood blockStart
  rw [Flood.levelAt_inject (fits_ignite properties cubes) _ inRange]
  unfold startLevel
  rw [levelAt_ignite cubes inRange]

/-- Every cell that starts with light waits to spread it. -/
theorem spreads_blockFlood
    (cubes : ∀ palette ∈ input.sections, palette.SectionCube) :
    (input.blockFlood properties).SpreadsFromWaiting properties
      input.sections := by
  intro voxel other inRange otherInRange adjacent still
  have grown :=
    Flood.extends_inject properties (fits_ignite properties cubes)
      input.neighborBlock
  have dark : (input.blockFlood properties).light.levelAt other = 0 := by
    have unmoved := grown.levelAt_eq_of_not_waiting otherInRange still
    have dull : other ∉ Flood.allGlowing properties input.sections := by
      intro member
      apply still
      apply grown.waiting_of_waiting
      rw [Flood.ignite_eq cubes, Flood.waiting_raiseAll]
      exact List.mem_append_right _ member
    have noEmission :
        properties.emission (blockOf input.sections other) = 0 :=
      Nat.eq_zero_of_not_pos fun lit =>
        dull (Flood.mem_allGlowing_iff.2 ⟨otherInRange, lit⟩)
    refine unmoved.trans ?_
    rw [levelAt_ignite cubes otherInRange, Flood.glow, noEmission,
      Nat.zero_min]
  rw [dark, Nat.zero_sub]
  exact Nat.zero_le _

section

variable
    (properties)
    (input)
    (cubes : ∀ palette ∈ input.sections, palette.SectionCube)
include cubes

theorem size_blockLight :
    (input.blockLight properties).size = input.sections.size + 2 :=
  Flood.size_settle (fits_blockFlood cubes) (spreads_blockFlood cubes)

theorem blockLight_least :
    IsLeastLight properties input.sections (input.blockStart properties)
      (input.blockLight properties).levelAt :=
  (Flood.settle_isLeastLight (fits_blockFlood cubes)
    (spreads_blockFlood cubes)).congr_start
    fun _ inRange => levelAt_blockFlood cubes inRange

/--
Block light is the least light in which each cell has at least its emission,
cut at the brightest level, and what is left of the block light next to it,
in the column and across its border.
-/
theorem blockLight_isLeastLight :
    IsLeastLight properties input.sections (input.blockStart properties)
        (input.blockLight properties).levelAt ∧
      (input.blockLight properties).size = input.sections.size + 2 :=
  ⟨blockLight_least properties input cubes,
    size_blockLight properties input cubes⟩

end

/-! ## A lamp in the air -/

/--
The light properties of lamps, which are as bright as light can be, amid air.
-/
def lampProperties : LightProperties where
  filter := fun _ => 0
  emission := fun id => if id = 2 then 15 else 0

/-- A section of air with one lamp in it. -/
def lampAt (x y z : Nat) : Palette :=
  (Palette.blocks air).setIdAt x y z 2

theorem sectionCube_lampAt
    {x y z : Nat}
    (xLt : x < 16)
    (yLt : y < 16)
    (zLt : z < 16) :
    (lampAt x y z).SectionCube :=
  (Palette.sectionCube_blocks air).setIdAt (by decide) xLt yLt zLt 2

theorem blockLight_lampAt_isLeastLight :
    (∀ palette ∈ #[lampAt 8 8 8], palette.SectionCube) ∧
      IsLeastLight lampProperties #[lampAt 8 8 8]
        ((isolated #[lampAt 8 8 8]).blockStart lampProperties)
        ((isolated #[lampAt 8 8 8]).blockLight lampProperties).levelAt := by
  have cubes : ∀ palette ∈ #[lampAt 8 8 8], palette.SectionCube := by
    intro palette member
    rw [List.mem_singleton.1 (List.mem_toArray.1 member)]
    exact sectionCube_lampAt (by decide) (by decide) (by decide)
  exact ⟨cubes,
    (blockLight_isLeastLight lampProperties
      (isolated #[lampAt 8 8 8]) cubes).1⟩

end LightInput

end VoxelRelay
