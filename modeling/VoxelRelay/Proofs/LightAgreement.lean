import VoxelRelay.Proofs.CanonicalLight
import VoxelRelay.Proofs.DerivedState

/-!
# Light that nothing would change

Columns are lit from each other's stored light.  Where every column has the
light that lighting it anew would give, that light is determined by the blocks
alone: two levels that differ would have to come from over a border, where the
brighter of them is brighter still by a level at least, and there is nothing
brighter than fifteen.
-/

namespace VoxelRelay

/-! ## Levels that agree above a bound -/

/--
Where the starts of one column are no brighter above a bound, its least light
is not either.
-/
theorem IsLeastLight.le_max
    {properties : LightProperties}
    {sections : Array Palette}
    {start other left right : Voxel → Nat}
    {bound : Nat}
    (leftLeast : IsLeastLight properties sections start left)
    (rightLeast : IsLeastLight properties sections other right)
    (starts : ∀ voxel, voxel.InRange sections.size →
      start voxel ≤ max (other voxel) bound) :
    ∀ voxel, voxel.InRange sections.size →
      left voxel ≤ max (right voxel) bound := by
  apply leftLeast.le_solution fun voxel => max (right voxel) bound
  constructor
  · intro voxel inRange
    have least := rightLeast.solution.start_le voxel inRange
    have above := starts voxel inRange
    omega
  · intro voxel beside inRange besideInRange adjacent
    have spread :=
      rightLeast.solution.spread_le voxel beside inRange
        besideInRange adjacent
    omega

/--
Every level of the left light that is above a bound is no brighter than the
right light.
-/
def LightData.LeAbove (bound : Nat) (left right : LightData) : Prop :=
  ∀ slot index, left.level slot index ≤ max (right.level slot index) bound

theorem LightData.leAbove_of_voxels
    {bound count : Nat}
    {base left right : LightData}
    (leftGrown : Flood.Brightens count base left)
    (rightGrown : Flood.Brightens count base right)
    (levels : ∀ voxel, voxel.InRange count →
      left.levelAt voxel ≤ max (right.levelAt voxel) bound) :
    left.LeAbove bound right := by
  intro slot index
  by_cases outside : slot = 0 ∨ count < slot
  · have same :=
      (leftGrown.outside_eq slot outside).trans
        (rightGrown.outside_eq slot outside).symm
    rw [LightData.level_congr same]
    exact Nat.le_max_left _ _
  · rcases Nat.lt_or_ge index 4096 with inside | past
    · have slotLt : slot - 1 < count := by omega
      obtain ⟨voxel, inRange, slots, rfl⟩ :=
        Voxel.exists_index_eq slotLt inside
      have place : voxel.slot + 1 = slot := by omega
      rw [← place]
      exact levels voxel inRange
    · rw [LightData.level_eq_zero_of_outside _ _ past]
      exact Nat.zero_le _

/--
Both kinds of light are no brighter than other light where they are above a
bound.
-/
structure ColumnLight.LeAbove
    (bound : Nat)
    (left right : ColumnLight) : Prop where
  sky : left.sky.LeAbove bound right.sky
  block : left.block.LeAbove bound right.block

/--
Light in columns of the same blocks whose neighbors differ in no more than
their light.
-/
structure LightInput.FedLike
    (bound : Nat)
    (first second : LightInput) : Prop where
  sections_eq : first.sections = second.sections
  light_le : ∀ direction light,
    first.neighborLight.get direction = some light →
    ∃ other, second.neighborLight.get direction = some other ∧
      light.LeAbove bound other

theorem borderLevel_le_max
    {left right : Sides (Option LightData)}
    {bound : Nat}
    {direction : Direction}
    (fed : ∀ light, left.get direction = some light →
      ∃ other, right.get direction = some other ∧ light.LeAbove bound other)
    (voxel : Voxel) :
    borderLevel left voxel direction ≤
      max (borderLevel right voxel direction) bound := by
  unfold borderLevel
  split
  · cases known : left.get direction with
    | none => exact Nat.zero_le _
    | some light =>
        obtain ⟨other, there, le⟩ := fed light known
        rw [there]
        exact le _ _
  · exact Nat.zero_le _

/-- What comes over a border loses a level at least. -/
theorem startLevel_le_max
    {properties : LightProperties}
    {sections : Array Palette}
    {own : Voxel → Nat}
    {left right : Sides (Option LightData)}
    {bound : Nat}
    {voxel : Voxel}
    (borders : ∀ direction,
      borderLevel left voxel direction ≤
        max (borderLevel right voxel direction) (bound + 1)) :
    startLevel properties sections left own voxel ≤
      max (startLevel properties sections right own voxel) bound := by
  have positive := Flood.cost_pos properties (blockOf sections voxel)
  obtain ⟨ownLe, borderLe⟩ := startLevel_le_iff.1
    (le_refl (startLevel properties sections right own voxel))
  refine startLevel_le_iff.2
    ⟨ownLe.trans (Nat.le_max_left _ _), fun direction => ?_⟩
  have outside := borders direction
  have inside := borderLe direction
  omega

namespace LightInput.FedLike

variable {first second : LightInput} {bound : Nat}

/-- What the neighbors feed in of one kind of light. -/
theorem borderLevel_le
    (fed : FedLike bound first second)
    (kind : ColumnLight → LightData)
    (le : ∀ left right : ColumnLight, left.LeAbove bound right →
      (kind left).LeAbove bound (kind right))
    (voxel : Voxel)
    (direction : Direction) :
    borderLevel (first.neighborLight.map (·.map kind)) voxel direction ≤
      max
        (borderLevel (second.neighborLight.map (·.map kind)) voxel direction)
        bound := by
  apply borderLevel_le_max
  intro light known
  rw [Sides.map, Sides.get_ofFn, Option.map_eq_some_iff] at known
  obtain ⟨whole, there, rfl⟩ := known
  obtain ⟨other, beside, whole_le⟩ := fed.light_le direction whole there
  refine ⟨kind other, ?_, le whole other whole_le⟩
  rw [Sides.map, Sides.get_ofFn, beside, Option.map_some]

section

variable
    (fed : FedLike (bound + 1) first second)
    (properties : LightProperties)
include fed

theorem leAbove_skyLight :
    (first.skyLight properties).LeAbove bound
      (second.skyLight properties) := by
  have grown := brightens_skyLight properties first
  have least := skyLight_least properties first
  rw [fed.sections_eq] at grown least
  apply LightData.leAbove_of_voxels grown
    (brightens_skyLight properties second)
  apply least.le_max (skyLight_least properties second)
  intro voxel inRange
  exact startLevel_le_max
    (fed.borderLevel_le ColumnLight.sky (fun _ _ le => le.sky) voxel)

variable (cubes : ∀ palette ∈ second.sections, palette.SectionCube)
include cubes

theorem leAbove_blockLight :
    (first.blockLight properties).LeAbove bound
      (second.blockLight properties) := by
  have firstCubes := cubes
  rw [← fed.sections_eq] at firstCubes
  have grown := brightens_blockLight properties firstCubes
  have least := blockLight_least properties first firstCubes
  rw [fed.sections_eq] at grown least
  apply LightData.leAbove_of_voxels grown
    (brightens_blockLight properties cubes)
  apply least.le_max (blockLight_least properties second cubes)
  intro voxel inRange
  rw [blockStart, blockStart, fed.sections_eq]
  exact startLevel_le_max
    (fed.borderLevel_le ColumnLight.block (fun _ _ le => le.block) voxel)

/--
Fed by light that agrees above a bound, columns agree above one level less.
-/
theorem leAbove_light :
    (first.light properties).LeAbove bound (second.light properties) :=
  ⟨fed.leAbove_skyLight properties, fed.leAbove_blockLight properties cubes⟩

end

/-- Fed by the same light, columns of the same blocks have the same light. -/
theorem light_eq
    (fed : FedLike 0 first second)
    (fedBack : FedLike 0 second first)
    (properties : LightProperties)
    (cubes : ∀ palette ∈ second.sections, palette.SectionCube) :
    first.light properties = second.light properties := by
  have borders : ∀ kind : ColumnLight → LightData,
      (∀ left right : ColumnLight, left.LeAbove 0 right →
        (kind left).LeAbove 0 (kind right)) →
        ∀ voxel direction,
          borderLevel (first.neighborLight.map (·.map kind)) voxel direction =
          borderLevel (second.neighborLight.map (·.map kind))
            voxel direction := by
    intro kind le voxel direction
    have there := fed.borderLevel_le kind le voxel direction
    have back := fedBack.borderLevel_le kind le voxel direction
    omega
  have firstCubes := cubes
  rw [← fed.sections_eq] at firstCubes
  have same : SameSources properties first second := {
    size_eq := by rw [fed.sections_eq]
    block_eq := fun _ _ => by rw [fed.sections_eq]
    loss_eq := fun _ _ _ _ => by rw [fed.sections_eq]
    sky_eq :=
      fun voxel _ => borders ColumnLight.sky (fun _ _ le => le.sky) voxel
    border_eq :=
      fun voxel _ =>
        borders ColumnLight.block (fun _ _ le => le.block) voxel }
  exact same.light_eq firstCubes cubes

end LightInput.FedLike

/-! ## Light that comes back -/

/--
What comes over the borders does not matter where it is as bright already.
-/
theorem IsLeastLight.eq_of_borders_le
    {properties : LightProperties}
    {sections : Array Palette}
    {neighbors closed : Sides (Option LightData)}
    {own left right : Voxel → Nat}
    (leftLeast : IsLeastLight properties sections
      (startLevel properties sections neighbors own) left)
    (rightLeast : IsLeastLight properties sections
      (startLevel properties sections closed own) right)
    (borders : ∀ voxel, voxel.InRange sections.size →
      ∀ direction, borderLevel neighbors voxel direction -
        properties.cost (blockOf sections voxel) ≤ right voxel)
    (none : ∀ voxel direction, borderLevel closed voxel direction = 0)
    (voxel : Voxel)
    (inRange : voxel.InRange sections.size) :
    left voxel = right voxel := by
  refine leftLeast.eq_of_start_le rightLeast (fun cell inside => ?_)
    (fun cell inside => ?_) voxel inRange
  · have starts := rightLeast.solution.start_le cell inside
    exact startLevel_le_iff.2
      ⟨(startLevel_le_iff.1 starts).1, borders cell inside⟩
  · have starts := leftLeast.solution.start_le cell inside
    refine startLevel_le_iff.2
      ⟨(startLevel_le_iff.1 starts).1, fun direction => ?_⟩
    rw [none, Nat.zero_sub]
    exact Nat.zero_le _

namespace LightInput

/--
What is left of the light that comes over the borders of a column is no
brighter than the light that the column has by itself.
-/
structure Sated
    (properties : LightProperties)
    (input : LightInput) : Prop where
  sky_le : ∀ voxel, voxel.InRange input.sections.size → ∀ direction,
    borderLevel input.neighborSky voxel direction -
        properties.cost (blockOf input.sections voxel) ≤
      ((isolated input.sections).skyLight properties).levelAt voxel
  block_le : ∀ voxel, voxel.InRange input.sections.size → ∀ direction,
    borderLevel input.neighborBlock voxel direction -
        properties.cost (blockOf input.sections voxel) ≤
      ((isolated input.sections).blockLight properties).levelAt voxel

variable {properties : LightProperties} {input : LightInput}

/-- What is there already changes nothing. -/
theorem Sated.light_eq
    (sated : input.Sated properties)
    (cubes : ∀ palette ∈ input.sections, palette.SectionCube) :
    input.light properties = (isolated input.sections).light properties := by
  have closed := borderLevel_isolated input.sections
  have sky : input.skyLight properties =
      (isolated input.sections).skyLight properties := by
    refine skyLight_eq_of_levels ?_ ?_ ?_
    · rfl
    · exact fun _ _ _ _ => rfl
    exact (skyLight_least properties input).eq_of_borders_le
      (skyLight_least properties (isolated input.sections)) sated.sky_le
      (closed ColumnLight.sky)
  have block : input.blockLight properties =
      (isolated input.sections).blockLight properties := by
    refine blockLight_eq_of_levels ?_ cubes cubes ?_
    · rfl
    exact (blockLight_least properties input cubes).eq_of_borders_le
      (blockLight_least properties (isolated input.sections) cubes)
      sated.block_le (closed ColumnLight.block)
  rw [light, light, sky, block]

end LightInput

/-! ## Stores that are up to date -/

namespace Store

/--
Lighting a column that was sent anew would give the light that is stored for
it.
-/
def UpToDate (store : Store) : Prop :=
  ∀ (pos : ColumnPos) (palettes : Array Palette) (light : ColumnLight),
    store.converted[pos]? = some palettes → store.light[pos]? = some light →
      light = (store.lightInput pos palettes).light store.table.light

/-- The blocks of every column that was sent are cubes of sixteen. -/
def Cubic (store : Store) : Prop :=
  ∀ (pos : ColumnPos) (palettes : Array Palette),
    store.converted[pos]? = some palettes →
    ∀ palette ∈ palettes, palette.SectionCube

/-- A store whose light is up to date. -/
structure Settled (store : Store) : Prop where
  consistent : store.Consistent
  cubic : store.Cubic
  upToDate : store.UpToDate

/-- Two stores have sent the same blocks, which light treats alike. -/
structure SameBlocks (first second : Store) : Prop where
  light_eq : first.table.light = second.table.light
  converted_eq : ∀ pos : ColumnPos,
    first.converted[pos]? = second.converted[pos]?

theorem SameBlocks.symm
    {first second : Store}
    (same : first.SameBlocks second) :
    second.SameBlocks first :=
  ⟨same.light_eq.symm, fun pos => (same.converted_eq pos).symm⟩

namespace SameBlocks

variable
    {first second : Store}
    (same : first.SameBlocks second)
    (firstSettled : first.Settled)
    (secondSettled : second.Settled)
include same firstSettled secondSettled

/-- Light is stored for the same columns. -/
theorem exists_light
    {pos : ColumnPos}
    {light : ColumnLight}
    (known : first.light[pos]? = some light) :
    ∃ palettes other, first.converted[pos]? = some palettes ∧
      second.converted[pos]? = some palettes ∧
        second.light[pos]? = some other := by
  obtain ⟨palettes, converted⟩ := firstSettled.consistent.exists_converted
    (firstSettled.consistent.sent_of_light known)
  have there := converted
  rw [same.converted_eq pos] at there
  obtain ⟨other, lit⟩ := secondSettled.consistent.exists_light
    (secondSettled.consistent.sent_of_converted there)
  exact ⟨palettes, other, converted, there, lit⟩

/-- Light that agrees above a bound feeds all columns alike. -/
theorem fedLike
    {bound : Nat}
    (agree : ∀ (pos : ColumnPos) (light other : ColumnLight),
      first.light[pos]? = some light → second.light[pos]? = some other →
      light.LeAbove bound other)
    (pos : ColumnPos)
    (palettes : Array Palette) :
    LightInput.FedLike bound (first.lightInput pos palettes)
      (second.lightInput pos palettes) where
  sections_eq := rfl
  light_le := by
    intro direction light known
    rw [lightInput, Sides.get_ofFn] at known
    obtain ⟨-, other, -, -, there⟩ :=
      same.exists_light firstSettled secondSettled known
    refine ⟨other, ?_, agree _ light other known there⟩
    rw [lightInput, Sides.get_ofFn, there]

/--
Light that is up to date agrees above every bound: each border costs a level.
-/
theorem leAbove
    {rounds bound : Nat}
    (whole : bound + rounds = 15) :
    ∀ (pos : ColumnPos) (light other : ColumnLight),
      first.light[pos]? = some light →
      second.light[pos]? = some other → light.LeAbove bound other := by
  induction rounds generalizing bound with
  | zero =>
      obtain rfl : bound = 15 := whole
      intro pos light other _ _
      constructor
      · intro slot index
        have small := light.sky.level_lt slot index
        omega
      · intro slot index
        have small := light.block.level_lt slot index
        omega
  | succ rounds ih =>
      intro pos light other known there
      obtain ⟨palettes, -, converted, shared, -⟩ :=
        same.exists_light firstSettled secondSettled known
      have fed := same.fedLike firstSettled secondSettled
        (ih (show bound + 1 + rounds = 15 by omega)) pos palettes
      rw [firstSettled.upToDate pos palettes light converted known,
        secondSettled.upToDate pos palettes other shared there, same.light_eq]
      exact fed.leAbove_light second.table.light
        (secondSettled.cubic pos palettes shared)

/-- Light that is up to date is determined by the blocks that were sent. -/
theorem getElem?_light_eq (pos : ColumnPos) :
    first.light[pos]? = second.light[pos]? := by
  cases known : first.light[pos]? with
  | none =>
      cases there : second.light[pos]? with
      | none => rfl
      | some other =>
          obtain ⟨-, light, -, -, lit⟩ :=
            same.symm.exists_light secondSettled firstSettled there
          rw [known] at lit
          cases lit
  | some light =>
      obtain ⟨palettes, other, converted, shared, there⟩ :=
        same.exists_light firstSettled secondSettled known
      have fed := same.fedLike firstSettled secondSettled
        (same.leAbove firstSettled secondSettled (Nat.zero_add 15))
        pos palettes
      have fedBack := same.symm.fedLike secondSettled firstSettled
        (same.symm.leAbove secondSettled firstSettled (Nat.zero_add 15))
        pos palettes
      rw [there, firstSettled.upToDate pos palettes light converted known,
        secondSettled.upToDate pos palettes other shared there, same.light_eq,
        fed.light_eq fedBack second.table.light
          (secondSettled.cubic pos palettes shared)]

end SameBlocks

end Store

end VoxelRelay
