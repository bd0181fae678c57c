import VoxelRelay.Proofs.RefusedSections

/-!
# Bounds of the world

A store has a section for a block exactly if the block lies between the bottom
and the top of its world: the coordinate of its section, counted from that of
the lowest one, is below the number of sections.  The bounds that a store
answers say the same as long as the bottom of its world is not above zero.  The
upper one is what is left of the height beyond the distance of the bottom from
zero, and that is the top only of a world that begins at zero or below.

The main result is `bounds_run`.
-/

namespace VoxelRelay

/-- The first height above a world. -/
def WorldSettings.top (world : WorldSettings) : Int :=
  world.minY.toInt + world.height.toNat

namespace Store

variable {store : Store}

/-! ## Sections for blocks -/

/-- No block is further from the lowest section than a coordinate can tell. -/
theorem measures_sectionCoordinate
    (store : Store)
    (y : Int32) :
    store.Measures (sectionCoordinate y) := by
  have least := y.le_toInt
  have most := y.toInt_lt
  have low := store.minY.le_toInt
  have high := store.minY.toInt_lt
  rw [Measures, sectionsAbove, toInt_sectionCoordinate]
  omega

/--
The world has sections at the height of a block exactly if the block lies in
it.
-/
theorem reaches_sectionCoordinate_iff
    (valid : store.settings.world.IsValid)
    (y : Int32) :
    store.Reaches (sectionCoordinate y) ↔
      store.minY.toInt ≤ y.toInt ∧ y.toInt < store.settings.world.top := by
  obtain ⟨-, height, bottom⟩ := valid
  rw [Reaches, sectionsAbove, toInt_sectionCoordinate, sectionCount,
    WorldSettings.sectionCount, WorldSettings.top, minY]
  omega

/--
A store has a section for a block of a shown column if the world reaches it.
-/
theorem High.isSome_section?_iff
    (high : store.High)
    {pos : BlockPos}
    (shown : (store.column? pos.column).isSome = true) :
    (store.section? pos.sectionPos).isSome = true ↔
      store.Reaches pos.sectionPos.y := by
  have measures := store.measures_sectionCoordinate pos.y
  constructor
  · intro found
    by_contra outside
    have missing : store.slot? pos.sectionPos.y = none :=
      (slot?_eq_none_iff measures).2 outside
    simp [section?, missing] at found
  · intro reached
    obtain ⟨column, slot, current, loaded, inside, there⟩ :=
      @High.exists_section? store high pos.sectionPos measures shown reached
    simp [section?, inside, loaded, there]

/-! ## The bounds that are answered -/

/--
The distance of a height from zero, which the lowest height of all wraps
around.
-/
theorem toInt_abs (y : Int32) :
    (if y < 0 then -y else y).toInt =
      (y.toInt.natAbs : Int).bmod (2 ^ 32) := by
  have least := y.le_toInt
  have most := y.toInt_lt
  split
  next below =>
    have negative : y.toInt < 0 := Int32.lt_iff_toInt_lt.1 below
    rw [Int32.toInt_neg, Int.ofNat_natAbs_of_nonpos (Int.le_of_lt negative)]
  next above =>
    have nonneg : 0 ≤ y.toInt :=
      Int32.le_iff_toInt_le.1 (Int32.not_lt.1 above)
    rw [Int.natAbs_of_nonneg nonneg, Int.bmod_eq_of_le] <;> omega

/--
The upper bound that is answered is the height less the distance of the bottom
from zero.
-/
theorem toInt_maxY (fits : store.settings.world.top < 2 ^ 31) :
    store.maxY.toInt =
      store.settings.world.height.toNat - store.minY.toInt.natAbs := by
  have least := store.minY.le_toInt
  have top : store.settings.world.top =
      store.minY.toInt + store.settings.world.height.toNat := rfl
  have height : store.settings.world.height.toInt32.toInt =
      (store.settings.world.height.toNat : Int).bmod (2 ^ 32) :=
    BitVec.toInt_eq_toNat_bmod _
  rw [maxY, Int32.toInt_sub, toInt_abs, height, Int.bmod_sub_bmod,
    Int.sub_bmod_bmod, Int.bmod_eq_of_le] <;> omega

/--
The upper bound that is answered is the top if the world begins at zero or
below.
-/
theorem toInt_maxY_eq_top_iff (fits : store.settings.world.top < 2 ^ 31) :
    store.maxY.toInt = store.settings.world.top ↔ store.minY.toInt ≤ 0 := by
  rw [toInt_maxY fits, WorldSettings.top, minY]
  omega

/-- The upper bound that is answered is never above the top. -/
theorem toInt_maxY_le_top (fits : store.settings.world.top < 2 ^ 31) :
    store.maxY.toInt ≤ store.settings.world.top := by
  rw [toInt_maxY fits, WorldSettings.top, minY]
  omega

/-- There are blocks right below the top of a world. -/
theorem exists_toInt_eq_top_sub_one
    (valid : store.settings.world.IsValid)
    (fits : store.settings.world.top < 2 ^ 31) :
    ∃ y : Int32, y.toInt = store.settings.world.top - 1 ∧ store.minY ≤ y := by
  have height := valid.1
  have positive : 0 < store.settings.world.height.toNat :=
    Nat.pos_of_ne_zero fun none => height (UInt32.toNat_inj.1 none)
  have bottom : store.minY.toInt ≤ store.settings.world.top - 1 := by
    rw [WorldSettings.top, minY]
    omega
  have least := store.minY.le_toInt
  have here : (Int32.ofInt (store.settings.world.top - 1)).toInt =
      store.settings.world.top - 1 :=
    Int32.toInt_ofInt_of_le (least.trans bottom) (by omega)
  refine ⟨.ofInt (store.settings.world.top - 1), here,
    Int32.le_iff_toInt_le.2 ?_⟩
  rwa [here]

/-! ## Runs -/

/--
In whatever state a store is reached, it has a section for a block of a shown
column exactly if the block lies in its world, from the bottom up to the top.
These are the bounds that it answers if the world begins at zero or below, and
then only.
-/
theorem bounds_run
    {settings : Settings}
    (valid : settings.world.IsValid)
    (fits : settings.world.top < 2 ^ 31)
    (converter : Converter)
    (operations : List StoreOperation)
    (x z : Int32) :
    let store := (create settings converter).run operations
    (store.column? (.containing x z)).isSome = true →
      (∀ y : Int32,
        (store.section? (BlockPos.sectionPos ⟨x, y, z⟩)).isSome = true ↔
        settings.world.minY.toInt ≤ y.toInt ∧ y.toInt < settings.world.top) ∧
      ((∀ y : Int32,
          (store.section? (BlockPos.sectionPos ⟨x, y, z⟩)).isSome = true ↔
        store.minY ≤ y ∧ y < store.maxY) ↔
          settings.world.minY.toInt ≤ 0) := by
  intro store shown
  have high : store.High := high_run settings converter operations
  have same : store.settings = settings :=
    (sameTables_run (create settings converter) operations).settings_eq
  rw [← same] at valid fits ⊢
  have within (y : Int32) :
      (store.section? (BlockPos.sectionPos ⟨x, y, z⟩)).isSome = true ↔
        store.minY.toInt ≤ y.toInt ∧ y.toInt < store.settings.world.top :=
    (@High.isSome_section?_iff store high ⟨x, y, z⟩ shown).trans
      (reaches_sectionCoordinate_iff valid y)
  refine ⟨within, ?_⟩
  rw [show store.settings.world.minY = store.minY from rfl,
    ← toInt_maxY_eq_top_iff fits]
  constructor
  · -- The highest blocks have a section, so that the upper bound is not
    -- below the top.
    intro answered
    obtain ⟨y, highest, above⟩ := exists_toInt_eq_top_sub_one valid fits
    have inside : store.minY ≤ y ∧ y < store.maxY :=
      (answered y).1 ((within y).2 ⟨Int32.le_iff_toInt_le.1 above, by omega⟩)
    have below := Int32.lt_iff_toInt_lt.1 inside.2
    have never := toInt_maxY_le_top fits
    omega
  · intro answered y
    rw [within, Int32.le_iff_toInt_le, Int32.lt_iff_toInt_lt, answered]

/-- A store of the world that is set up by default, with one column. -/
def standardStore : Store :=
  (create .standard bareConverter).run [.createColumn ⟨0, 0⟩ 0]

/--
The world that is set up by default reaches from -64 up to 320, as its bounds
say.
-/
theorem bounds_run_standard :
    (Settings.standard.world.IsValid ∧ Settings.standard.world.top < 2 ^ 31 ∧
      (standardStore.column? (.containing 5 9)).isSome = true) ∧
    (∀ y : Int32,
      (standardStore.section? (BlockPos.sectionPos ⟨5, y, 9⟩)).isSome = true ↔
      -64 ≤ y.toInt ∧ y.toInt < 320) ∧
    (∀ y : Int32,
      (standardStore.section? (BlockPos.sectionPos ⟨5, y, 9⟩)).isSome = true ↔
      standardStore.minY ≤ y ∧ y < standardStore.maxY) := by
  have valid : Settings.standard.world.IsValid := by decide
  have fits : Settings.standard.world.top < 2 ^ 31 := by decide
  have shown : (standardStore.column? (.containing 5 9)).isSome = true := by
    decide +kernel
  obtain ⟨within, answered⟩ :=
    bounds_run valid fits bareConverter [.createColumn ⟨0, 0⟩ 0] 5 9 shown
  exact ⟨⟨valid, fits, shown⟩, within, answered.2 (by decide)⟩

/-- A world of 64 blocks that begins 64 blocks above zero. -/
def raisedSettings : Settings := { Settings.standard with world := ⟨64, 64⟩ }

def raisedStore : Store :=
  (create raisedSettings bareConverter).run [.createColumn ⟨0, 0⟩ 0]

/--
The lowest blocks of that world have a section and are beyond the bounds that
are answered.
-/
theorem section?_beyond_bounds :
    raisedSettings.world.IsValid ∧ raisedSettings.world.top < 2 ^ 31 ∧
      (raisedStore.column? (BlockPos.column ⟨0, 64, 0⟩)).isSome = true ∧
      (raisedStore.section? (BlockPos.sectionPos ⟨0, 64, 0⟩)).isSome = true ∧
      ¬(raisedStore.minY ≤ 64 ∧ 64 < raisedStore.maxY) := by
  refine ⟨by decide, by decide, by decide +kernel, by decide +kernel,
    by decide +kernel⟩

end Store

end VoxelRelay
