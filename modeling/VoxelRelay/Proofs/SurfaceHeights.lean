import Mathlib.Data.Nat.Log
import Mathlib.Order.Bounds.Image
import VoxelRelay.Proofs.ColumnContents
import VoxelRelay.Settings.Basic

/-!
# Surface heights

A heightmap is searched for from above, section by section and, in a section,
cell by cell.  A search that takes the answer of the upper part, and turns to
the lower part only if there is none, finds the greatest of all numbers of
interest; so an entry is one more than the highest cell of interest, counted
from the bottom of the world, and where there is none, the bottom itself.  Both
heightmaps of a converted column are of this kind: `heights_convert`.

The width of an entry is that of the height of the column.  It is enough for
every column of cells that has a cell of interest, `entriesPack_convert`, but
not for the bottom of the world, which may be negative or beyond all heights.
-/

namespace VoxelRelay

/-! ## Searching from above -/

/-- An answer to the search for the greatest of some numbers. -/
def Finds (numbers : Set Nat) : Option Nat → Prop
  | some number => IsGreatest numbers number
  | none => numbers = ∅

namespace Finds

variable {numbers upper lower : Set Nat} {answer high low : Option Nat}

/-- The lower part is searched only if the upper part has nothing. -/
theorem or
    (found : Finds upper high)
    (rest : Finds lower low)
    (ordered : ∀ below ∈ lower, ∀ above ∈ upper, below ≤ above) :
    Finds (upper ∪ lower) (high.or low) := by
  cases high with
  | none =>
      have nothing : upper = ∅ := found
      rwa [nothing, Set.empty_union, Option.none_or]
  | some top =>
      obtain ⟨member, most⟩ : IsGreatest upper top := found
      refine ⟨Or.inl member, ?_⟩
      rintro number (inside | below)
      · exact most inside
      · exact ordered number below top member

/-- The same search above a base. -/
theorem map_add
    (found : Finds numbers answer)
    (base : Nat) :
    Finds ((base + ·) '' numbers) (answer.map (base + ·)) := by
  cases answer with
  | none =>
      have nothing : numbers = ∅ := found
      rw [nothing]
      exact Set.image_empty _
  | some top =>
      have rising : Monotone (base + ·) :=
        fun _ _ ordered => Nat.add_le_add_left ordered base
      exact rising.map_isGreatest found

end Finds

theorem Palette.finds_highest?
    (palette : Palette)
    (test : UInt32 → Bool)
    (x z count : Nat) :
    Finds {y | y < count ∧ test (palette.idAt x y z) = true}
      (palette.highest? test x z count) := by
  induction count with
  | zero =>
      exact Set.eq_empty_of_forall_notMem fun _ inside =>
        absurd inside.1 (Nat.not_lt_zero _)
  | succ y ih =>
      rw [highest?]
      split
      · next passes =>
          exact ⟨⟨Nat.lt_succ_self y, passes⟩, fun _ inside =>
            Nat.lt_succ_iff.1 inside.1⟩
      · next fails =>
          have same :
              {place | place < y + 1 ∧ test (palette.idAt x place z) = true} =
              {place | place < y ∧ test (palette.idAt x place z) = true} := by
            ext place
            refine and_congr_left fun passes => ?_
            have apart : place ≠ y := fun same => fails (same ▸ passes)
            omega
          rw [same]
          exact ih

/-! ## Stacks of sections -/

/-- The identifier of a cell of a stack, counted from the bottom. -/
def stackAt? (sections : Array Palette) (x z index : Nat) : Option UInt32 :=
  sections[index / 16]?.map (·.idAt x (index % 16) z)

/--
The cells of a stack whose identifiers pass a test, counted from the bottom.
-/
def cellsWith
    (sections : Array Palette)
    (test : UInt32 → Prop)
    (x z : Nat) : Set Nat :=
  {index | ∃ id, stackAt? sections x z index = some id ∧ test id}

section

variable {sections : Array Palette} {test : UInt32 → Prop} {x z index : Nat}

theorem lt_of_mem_cellsWith (member : index ∈ cellsWith sections test x z) :
    index < sections.size * 16 := by
  obtain ⟨id, read, -⟩ := member
  obtain ⟨palette, found, -⟩ := Option.map_eq_some_iff.1 read
  have inside := (Array.getElem?_eq_some_iff.1 found).1
  omega

/-- The cells of one section lie above those of the sections below it. -/
theorem cellsWith_inter_succ
    {palette : Palette}
    {slot : Nat}
    (found : sections[slot]? = some palette) :
    cellsWith sections test x z ∩ Set.Iio ((slot + 1) * 16) =
      (slot * 16 + ·) '' {y | y < 16 ∧ test (palette.idAt x y z)} ∪
        cellsWith sections test x z ∩ Set.Iio (slot * 16) := by
  have within (y : Nat) (yLt : y < 16) :
      slot * 16 + y ∈ cellsWith sections test x z ↔
        test (palette.idAt x y z) := by
    have slotEq : (slot * 16 + y) / 16 = slot := by omega
    have restEq : (slot * 16 + y) % 16 = y := by omega
    simp [cellsWith, stackAt?, slotEq, restEq, found]
  ext index
  constructor
  · rintro ⟨member, below⟩
    rcases Nat.lt_or_ge index (slot * 16) with lower | upper
    · exact Or.inr ⟨member, lower⟩
    · obtain ⟨y, rfl⟩ := Nat.exists_eq_add_of_le upper
      have yLt : y < 16 := by
        have bound : slot * 16 + y < (slot + 1) * 16 := below
        omega
      exact Or.inl ⟨y, ⟨yLt, (within y yLt).1 member⟩, rfl⟩
  · rintro (⟨y, ⟨yLt, passes⟩, rfl⟩ | ⟨member, lower⟩)
    · refine ⟨(within y yLt).2 passes, ?_⟩
      change slot * 16 + y < (slot + 1) * 16
      omega
    · refine ⟨member, ?_⟩
      have bound : index < slot * 16 := lower
      change index < (slot + 1) * 16
      omega

end

/--
The search of a stack finds the highest of its lowest cells that are of
interest.
-/
theorem finds_highestCell?
    {sections : Array Palette}
    (test : UInt32 → Bool)
    (x z : Nat)
    {count : Nat}
    (low : count ≤ sections.size) :
    Finds (cellsWith sections (test · = true) x z ∩ Set.Iio (count * 16))
      (highestCell? sections test x z count) := by
  induction count with
  | zero =>
      exact Set.eq_empty_of_forall_notMem fun _ inside =>
        absurd inside.2 (by simp)
  | succ slot ih =>
      have found : sections[slot]? = some sections[slot] :=
        Array.getElem?_eq_getElem low
      have upper :=
        (sections[slot].finds_highest? test x z 16).map_add (slot * 16)
      rw [highestCell?, cellsWith_inter_succ found, found]
      refine upper.or (ih (Nat.le_of_succ_le low)) ?_
      rintro below ⟨-, inside⟩ above ⟨y, -, rfl⟩
      have bound : below < slot * 16 := inside
      change below ≤ slot * 16 + y
      omega

theorem finds_cellsWith
    (sections : Array Palette)
    (test : UInt32 → Bool)
    (x z : Nat) :
    Finds (cellsWith sections (test · = true) x z)
      (highestCell? sections test x z sections.size) := by
  have all : cellsWith sections (test · = true) x z ⊆
      Set.Iio (sections.size * 16) :=
    fun _ => lt_of_mem_cellsWith
  have found := finds_highestCell? test x z (Nat.le_refl sections.size)
  rwa [Set.inter_eq_left.2 all] at found

/-! ## Heights -/

/--
The height of some cells above the bottom of the world, or the bottom if there
are none.
-/
inductive IsHeight
    (cells : Set Nat)
    (bottom : Int) : Int → Prop
  | top {index : Nat} (highest : IsGreatest cells index) :
      IsHeight cells bottom (index + 1)
  | bottom (nothing : cells = ∅) : IsHeight cells bottom bottom

/-- The entry for what a search has found is its height, in 32 bits. -/
theorem Finds.exists_isHeight
    {cells : Set Nat}
    {answer : Option Nat}
    (found : Finds cells answer)
    (minY : Int32) :
    ∃ height, IsHeight cells minY.toInt height ∧
      heightEntry minY answer = .ofInt height := by
  cases answer with
  | none => exact ⟨minY.toInt, .bottom found, (Int32.ofInt_toInt minY).symm⟩
  | some index => exact ⟨index + 1, .top found, rfl⟩

/-- The entries of both heightmaps are heights of cells, in 32 bits. -/
theorem exists_heights_eq
    (table : MappingTable)
    (sections : Array Palette)
    (minY : Int32)
    (x z : Fin 16) :
    let heightmaps := Heightmaps.ofSections table sections minY
    ∃ surface blocking : Int,
      IsHeight (cellsWith sections (· ≠ air) x z) minY.toInt surface ∧
      IsHeight
        (cellsWith sections
          (fun id => id ≠ air ∧ table.isMotionBlocking id = true) x z)
          minY.toInt blocking ∧
      heightmaps.worldSurface[16 * z.val + x.val]? =
        some (Int32.ofInt surface).toInt ∧
      heightmaps.motionBlocking[16 * z.val + x.val]? =
        some (Int32.ofInt blocking).toInt := by
  intro heightmaps
  have placeLt : 16 * z.val + x.val < 256 := by omega
  have xEq : (16 * z.val + x.val) % 16 = x := by omega
  have zEq : (16 * z.val + x.val) / 16 = z := by omega
  have peaks :
      (allPeaks sections table.isMotionBlocking)[16 * z.val + x.val]? =
      some ⟨highestCell? sections (· != air) x z sections.size,
        highestCell? sections (bars table.isMotionBlocking) x z
          sections.size⟩ := by
    simp [allPeaks, placeLt, xEq, zEq, findPeaks_eq]
  obtain ⟨surface, isSurface, surfaceEntry⟩ :=
    (finds_cellsWith sections (· != air) x z).exists_isHeight minY
  obtain ⟨blocking, isBlocking, blockingEntry⟩ :=
    (finds_cellsWith sections (bars table.isMotionBlocking) x
      z).exists_isHeight minY
  refine ⟨surface, blocking, ?_, ?_, ?_, ?_⟩
  · simpa only [bne_iff_ne] using isSurface
  · simpa only [bars, Bool.and_eq_true, bne_iff_ne] using isBlocking
  · simp only [heightmaps, Heightmaps.ofSections, Array.getElem?_map, peaks,
      Option.map_some,
      surfaceEntry]
  · simp only [heightmaps, Heightmaps.ofSections, Array.getElem?_map, peaks,
      Option.map_some,
      blockingEntry]

/--
In a world of less than `2 ^ 31` blocks every height is a number of 32 bits.
-/
theorem IsHeight.toInt_ofInt
    {sections : Array Palette}
    {test : UInt32 → Prop}
    {minY : Int32}
    {x z : Nat}
    {height : Int}
    (isHeight : IsHeight (cellsWith sections test x z) minY.toInt height)
    (low : sections.size * 16 < 2 ^ 31) :
    (Int32.ofInt height).toInt = height := by
  cases isHeight with
  | top highest =>
      have inside := lt_of_mem_cellsWith highest.1
      exact Int32.toInt_ofInt_of_le (by omega) (by omega)
  | bottom => rw [Int32.ofInt_toInt]

namespace Converter

/--
Each entry of the two heightmaps of a converted column is the height of what is
there, in 32 bits: one more than the highest cell that is not air, or that is
not air and stops movement, and the bottom of the world if there is none.
-/
theorem heights_convert
    (converter : Converter)
    (column : Column)
    (minY : Int32)
    (x z : Fin 16) :
    let target := converter.convert column minY
    ∃ surface blocking : Int,
      IsHeight (cellsWith target.palettes (· ≠ air) x z) minY.toInt surface ∧
      IsHeight (cellsWith target.palettes
        (fun id => id ≠ air ∧ converter.table.isMotionBlocking id = true) x z)
        minY.toInt blocking ∧
      target.heightmaps.worldSurface[16 * z.val + x.val]? =
        some (Int32.ofInt surface).toInt ∧
      target.heightmaps.motionBlocking[16 * z.val + x.val]? =
        some (Int32.ofInt blocking).toInt ∧
      (target.sections.size * 16 < 2 ^ 31 →
        (Int32.ofInt surface).toInt = surface ∧
          (Int32.ofInt blocking).toInt = blocking) := by
  intro target
  obtain ⟨surface, blocking, isSurface, isBlocking, surfaceEntry,
      blockingEntry⟩ :=
    exists_heights_eq converter.table target.palettes minY x z
  refine ⟨surface, blocking, isSurface, isBlocking, surfaceEntry,
    blockingEntry, fun low => ?_⟩
  have size : target.palettes.size = target.sections.size := Array.size_map
  rw [← size] at low
  exact ⟨isSurface.toInt_ofInt low, isBlocking.toInt_ofInt low⟩

end Converter

/-! ## Packing -/

theorem bitsFor_eq_clog (count : Nat) : bitsFor count = Nat.clog 2 count := by
  rw [bitsFor]
  split
  · next few => exact (Nat.clog_of_right_le_one few 2).symm
  · next many =>
      have positive : count - 1 ≠ 0 := by omega
      apply le_antisymm
      · apply Nat.succ_le_of_lt
        rw [Nat.lt_clog_iff_pow_lt Nat.one_lt_two]
        have least := Nat.log2_self_le positive
        omega
      · rw [Nat.clog_le_iff_le_pow Nat.one_lt_two]
        have most := @Nat.lt_log2_self (count - 1)
        omega

/-- An entry is a number of so many bits. -/
def Packs (bits : Nat) (entry : Int) : Prop := 0 ≤ entry ∧ entry < 2 ^ bits

instance (bits : Nat) (entry : Int) : Decidable (Packs bits entry) :=
  inferInstanceAs (Decidable (_ ∧ _))

/--
An entry packs where some cell is of interest, and is the bottom of the world
elsewhere.
-/
structure PacksOrBottom
    (bits : Nat)
    (bottom : Int)
    (cells : Set Nat)
    (entry : Int) : Prop where
  packs : ∀ index, IsGreatest cells index → index + 1 < 2 ^ 31 →
    Packs bits entry
  eq_bottom : cells = ∅ → entry = bottom

theorem IsHeight.packsOrBottom
    {sections : Array Palette}
    {test : UInt32 → Prop}
    {minY : Int32}
    {x z bits : Nat}
    {height : Int}
    (isHeight : IsHeight (cellsWith sections test x z) minY.toInt height)
    (wide : sections.size * 16 < 2 ^ bits) :
    PacksOrBottom bits minY.toInt (cellsWith sections test x z)
      (Int32.ofInt height).toInt := by
  cases isHeight with
  | top highest =>
      rename_i top
      refine ⟨fun index greatest small => ?_, fun nothing => ?_⟩
      · obtain rfl := greatest.unique highest
        have inside := lt_of_mem_cellsWith highest.1
        rw [Int32.toInt_ofInt_of_le (by omega) (by omega)]
        refine ⟨by omega, ?_⟩
        exact_mod_cast Nat.lt_of_le_of_lt inside wide
      · exact absurd highest.1 (nothing ▸ Set.notMem_empty top)
  | bottom nothing =>
      refine ⟨fun index greatest => ?_, fun _ => by rw [Int32.ofInt_toInt]⟩
      exact absurd greatest.1 (nothing ▸ Set.notMem_empty index)

/-- The columns of a valid world are as high as the world. -/
theorem WorldSettings.IsValid.sectionCount_mul
    {world : WorldSettings}
    (valid : world.IsValid) :
    world.sectionCount * 16 = world.height.toNat :=
  Nat.div_mul_cancel (Nat.dvd_of_mod_eq_zero valid.2.1)

theorem WorldSettings.IsValid.sectionCount_mul_lt
    {world : WorldSettings}
    (valid : world.IsValid) :
    world.sectionCount * 16 < UInt32.size :=
  valid.sectionCount_mul ▸ world.height.toNat_lt_size

namespace Converter

variable {column : Column}

/--
The entries of a column are as wide as its height, and all its heights pack.
-/
theorem bitsPerEntry_convert
    (converter : Converter)
    (low : column.sections.size * 16 < UInt32.size)
    (minY : Int32) :
    let target := converter.convert column minY
    target.heightmaps.bitsPerEntry =
      Nat.clog 2 (column.sections.size * 16 + 1) ∧
      target.palettes.size * 16 < 2 ^ target.heightmaps.bitsPerEntry := by
  intro target
  have size : target.palettes.size = column.sections.size :=
    converter.size_palettes_convert column minY
  have width : target.heightmaps.bitsPerEntry =
      Nat.clog 2 (column.sections.size * 16 + 1) := by
    rw [show target.heightmaps = _
      from converter.heightmaps_convert column minY,
      Heightmaps.ofSections, size, Nat.mod_eq_of_lt low, bitsFor_eq_clog]
  rw [width, size]
  exact ⟨rfl, Nat.le_pow_clog Nat.one_lt_two _⟩

/--
In a column of less than `2 ^ 32` blocks, and no valid world has higher ones, an
entry of a heightmap packs if there is something in its column of cells, as long
as its height is a number of 32 bits.  The others hold the bottom of the world.
-/
theorem entriesPack_convert
    (converter : Converter)
    (low : column.sections.size * 16 < UInt32.size)
    (minY : Int32)
    (x z : Fin 16) :
    let target := converter.convert column minY
    let bits := target.heightmaps.bitsPerEntry
    bits = Nat.clog 2 (column.sections.size * 16 + 1) ∧
      ∃ surface blocking : Int,
        target.heightmaps.worldSurface[16 * z.val + x.val]? = some surface ∧
        target.heightmaps.motionBlocking[16 * z.val + x.val]? =
          some blocking ∧
        PacksOrBottom bits minY.toInt
          (cellsWith target.palettes (· ≠ air) x z) surface ∧
        PacksOrBottom bits minY.toInt (cellsWith target.palettes
          (fun id => id ≠ air ∧ converter.table.isMotionBlocking id = true) x
          z) blocking := by
  intro target bits
  obtain ⟨width, wide⟩ := converter.bitsPerEntry_convert low minY
  obtain ⟨surface, blocking, isSurface, isBlocking, surfaceEntry,
      blockingEntry⟩ :=
    exists_heights_eq converter.table target.palettes minY x z
  exact ⟨width, _, _, surfaceEntry, blockingEntry,
    isSurface.packsOrBottom wide, isBlocking.packsOrBottom wide⟩

end Converter

/-! ## A rock -/

/-- A world of one section below the sea. -/
def seaFloor : WorldSettings := ⟨-64, 16⟩

/-- A column of rock. -/
def rockColumn : Column := ⟨⟨0, 0⟩, #[.filled 1], #[], 1⟩

/-- The converter that shows rock. -/
def rockConverter : Converter :=
  let table :=
    [.block 1 1 none, .state 1 .opaqueSolid].foldl MappingTable.added
      (.create 0 0)
  ⟨table, table⟩

theorem fits_rock : rockConverter.Fits (.filled 1) where
  checked := {
    shape := by cbv
    layers := by
      intro palette member
      obtain rfl := Array.mem_singleton.1 member
      exact Palette.wellFormed_filled _ _
    biomes := fun _ member => nomatch member }
  room := by
    intro primary found
    obtain rfl : Palette.blocks 1 = primary := Option.some.inj found
    exact ⟨by decide, fun some => absurd some (by decide)⟩

theorem palettes_rock :
    (rockConverter.convert rockColumn (-64)).palettes =
      #[(rockConverter.convertSection rockColumn (-64) 0
          (.filled 1)).1.blocks] :=
  rockConverter.palettes_convert_of_alone rfl (-64)

/-- Every cell of the section of rock is shown as rock. -/
theorem idAt_rock
    {place : Place}
    (member : place ∈ placesOf 16) :
    (rockConverter.convertSection rockColumn (-64) 0
      (.filled 1)).1.blocks.read place = 1 := by
  have layer : (Section.filled 1).layer? 0 = some (.blocks 1) := rfl
  have alone : (Section.filled 1).layer? 1 = none := rfl
  have plain : rockConverter.entities.overrides = [] := by
    have none : rockConverter.entities.entityStates = ∅ := rfl
    rw [MappingTable.overrides, none, Std.HashMap.toList_empty, List.map_nil]
  have rock : (Palette.blocks 1).read place = 1 :=
    Palette.read_filled _ 1 place
  have known : rockConverter.table.destinationOrAir 1 = 1 := by cbv
  let plan := rockConverter.planFor rockColumn (-64) 0 (.blocks 1)
  have state : plan.state place = plan.mapped place :=
    plan.state_eq_mapped_of_overrides_eq_nil plain place
  have mapped : plan.mapped place = 1 :=
    (congrArg rockConverter.table.destinationOrAir rock).trans known
  rw [fits_rock.read_convertSection layer rockColumn (-64) 0 member, alone]
  exact state.trans mapped

theorem isGreatest_rock :
    IsGreatest
      (cellsWith (rockConverter.convert rockColumn (-64)).palettes
        (· ≠ air) 0 0) 15 := by
  have top : ((0, 15, 0) : Place) ∈ placesOf 16 :=
    mem_placesOf_iff.2 (by decide)
  have read (palette : Palette) :
      stackAt? #[palette] 0 0 15 = some (palette.read (0, 15, 0)) := rfl
  rw [palettes_rock]
  refine ⟨⟨1, ?_, by decide⟩, fun index member => ?_⟩
  · rw [read, idAt_rock top]
  · exact Nat.le_of_lt_succ (lt_of_mem_cellsWith member)

/-- Where there is rock its height of 16 packs. -/
theorem entriesPack_rock :
    (seaFloor.IsValid ∧ rockColumn.sections.size = seaFloor.sectionCount ∧
        rockColumn.sections.size * 16 < UInt32.size) ∧
      ∃ surface,
        (rockConverter.convert rockColumn (-64)).heightmaps.worldSurface[0]? =
        some surface ∧ Packs 5 surface := by
  have valid : seaFloor.IsValid := by decide
  have high : rockColumn.sections.size = seaFloor.sectionCount := rfl
  have low : rockColumn.sections.size * 16 < UInt32.size :=
    high ▸ valid.sectionCount_mul_lt
  obtain ⟨width, surface, -, entry, -, packs, -⟩ :=
    rockConverter.entriesPack_convert low (-64) 0 0
  have bits : Nat.clog 2 (rockColumn.sections.size * 16 + 1) = 5 := by decide
  rw [width, bits] at packs
  exact ⟨⟨valid, high, low⟩, surface, entry,
    packs.packs 15 isGreatest_rock (by decide)⟩

/-- A column as it is created has nothing in it but air. -/
theorem Converter.cellsWith_convert_create
    (converter : Converter)
    (pos : ColumnPos)
    (count declared : Nat)
    (minY : Int32)
    (x z : Nat) :
    cellsWith (converter.convert (.create pos count declared) minY).palettes
      (· ≠ air) x z = ∅ := by
  apply Set.eq_empty_of_forall_notMem
  rintro index ⟨id, read, filled⟩
  obtain ⟨palette, found, rfl⟩ := Option.map_eq_some_iff.1 read
  rw [Converter.getElem?_palettes_convert, Option.map_eq_some_iff] at found
  obtain ⟨content, held, rfl⟩ := found
  have empty : content.layer? 0 = none := by
    obtain ⟨slot, -, rfl⟩ := Array.mem_map.1 (Array.mem_of_getElem? held)
    split <;> rfl
  rw [Converter.convertSection_of_empty empty] at filled
  exact filled (Palette.idAtCell_filled _ _ _)

/--
A column as it is created has the bottom of the world for all its entries.
-/
theorem Converter.heightmaps_convert_create
    (converter : Converter)
    {world : WorldSettings}
    (valid : world.IsValid)
    (pos : ColumnPos)
    (declared : Nat)
    (x z : Fin 16) :
    let heightmaps :=
      (converter.convert (.create pos world.sectionCount declared)
        world.minY).heightmaps
    heightmaps.worldSurface[16 * z.val + x.val]? = some world.minY.toInt ∧
      heightmaps.bitsPerEntry = Nat.clog 2 (world.height.toNat + 1) := by
  intro heightmaps
  have size : (Column.create pos world.sectionCount declared).sections.size =
      world.sectionCount := by
    simp [Column.create]
  have empty :=
    converter.cellsWith_convert_create pos world.sectionCount declared
      world.minY x z
  obtain ⟨height, -, isHeight, -, entry, -⟩ :=
    exists_heights_eq converter.table
      (converter.convert (.create pos world.sectionCount declared)
        world.minY).palettes
      world.minY x z
  constructor
  · cases isHeight with
    | top highest => exact absurd highest.1 (empty ▸ Set.notMem_empty _)
    | bottom => rwa [Int32.ofInt_toInt] at entry
  · have width :=
      (converter.bitsPerEntry_convert (size ▸ valid.sectionCount_mul_lt)
        world.minY).1
    rwa [size, valid.sectionCount_mul] at width

/-- A world of one section above the sea. -/
def hilltop : WorldSettings := ⟨64, 16⟩

/-- The heightmaps of a column of a world as it is created. -/
def createdHeightmaps (world : WorldSettings) : Heightmaps :=
  (rockConverter.convert (.create ⟨0, 0⟩ world.sectionCount 1)
    world.minY).heightmaps

/--
The bottom of a world need not pack, be it below zero or above all heights.
-/
theorem bottom_not_packs :
    (seaFloor.IsValid ∧
      (createdHeightmaps seaFloor).worldSurface[0]? = some (-64) ∧
      ¬ Packs (createdHeightmaps seaFloor).bitsPerEntry (-64)) ∧
    (hilltop.IsValid ∧
      (createdHeightmaps hilltop).worldSurface[0]? = some 64 ∧
      ¬ Packs (createdHeightmaps hilltop).bitsPerEntry 64) := by
  have low : seaFloor.IsValid := by decide
  have high : hilltop.IsValid := by decide
  obtain ⟨lowEntry, lowBits⟩ :=
    rockConverter.heightmaps_convert_create low ⟨0, 0⟩ 1 0 0
  obtain ⟨highEntry, highBits⟩ :=
    rockConverter.heightmaps_convert_create high ⟨0, 0⟩ 1 0 0
  refine ⟨⟨low, lowEntry, ?_⟩, high, highEntry, ?_⟩
  · rw [createdHeightmaps, lowBits]
    decide
  · rw [createdHeightmaps, highBits]
    decide

end VoxelRelay
