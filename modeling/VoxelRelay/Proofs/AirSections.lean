import VoxelRelay.Proofs.LightReads
import VoxelRelay.Proofs.RegisteredTables

/-!
# Sections of air, written out

Sky light passes through a section that is stored as the one identifier of air
without looking at its cells, and goes through any other section cell by cell.
The two ways agree as long as air filters nothing.  A fresh table says so of
air, but air is the one state that a registration may describe anew, and what
counts is its last description.  Where that gives air a filter, a section of
air keeps the light out if its cells are written out, and lets it through if
they are not.
-/

namespace VoxelRelay

/-! ## What a table says of air -/

namespace MappingTable

/-- The description of air that a registration gives, if it gives one. -/
def Registration.ofAir? : Registration → Option BlockState
  | .state id description => if id = air then some description else none
  | _ => none

/-- What is said of air after some registrations: the last description of it. -/
def airAfter (entries : List Registration) : BlockState :=
  (entries.filterMap Registration.ofAir?).getLast?.getD .transparent

theorem state_air_added
    (table : MappingTable)
    (entry : Registration) :
    (table.added entry).state air = entry.ofAir?.getD (table.state air) := by
  cases entry with
  | state id description =>
      refine (Std.HashMap.getD_insert).trans ?_
      rw [Registration.ofAir?]
      by_cases same : id = air
      · rw [if_pos same, if_pos (beq_iff_eq.2 same)]
        rfl
      · rw [if_neg same, if_neg (fun equal => same (beq_iff_eq.1 equal))]
        rfl
  | _ => rfl

/--
Of the descriptions of air the last one stands, whatever else is registered.
-/
theorem state_air_of_registered_from
    {entries : List Registration}
    {start table : MappingTable}
    (built : entries.foldlM register start = .ok table) :
    table.state air =
      (entries.filterMap Registration.ofAir?).getLast?.getD
        (start.state air) := by
  induction entries generalizing start with
  | nil =>
      cases built
      rfl
  | cons entry entries ih =>
      rw [List.foldlM_cons] at built
      cases registered : start.register entry with
      | error error =>
          rw [registered] at built
          cases built
      | ok next =>
          rw [registered] at built
          obtain ⟨-, rfl⟩ := register_eq_ok_iff.1 registered
          rw [ih built, state_air_added, List.filterMap_cons]
          cases entry.ofAir? with
          | none => rfl
          | some description =>
              rw [List.getLast?_cons]
              rfl

theorem state_air_of_registered
    {entries : List Registration}
    {sourceAir replacement : UInt32}
    {table : MappingTable}
    (built : entries.foldlM register (.create sourceAir replacement) =
      .ok table) :
    table.state air = airAfter entries := by
  have fresh : (create sourceAir replacement).state air = .transparent :=
    Std.HashMap.getD_insert_self
  rw [state_air_of_registered_from built, fresh]
  rfl

end MappingTable

/-! ## Air, cell by cell -/

/--
Every cell of a section holds air, and each is stored by an index of its own.
-/
structure Palette.IndexedAir (palette : Palette) : Prop where
  indexed : palette.single? = none
  idAt_eq : ∀ x y z, x < 16 → y < 16 → z < 16 → palette.idAt x y z = air

/--
A second entry in the table is all it takes to have the air of a section
written out.
-/
theorem Palette.indexedAir_extended (id : UInt32) :
    ((blocks air).extended id).IndexedAir where
  indexed := by
    have cube := (sectionCube_blocks air).extended id
    apply cube.toWellFormed.single?_eq_none
    rw [ids_extended, Array.size_push]
    decide
  idAt_eq := by
    intro x y z xLt yLt zLt
    have cube := sectionCube_blocks air
    rw [idAt, (cube.extended id).cell_eq, ← cube.cell_eq,
      cube.toWellFormed.idAtCell_extended id (cube.cell_lt xLt yLt zLt)]
    exact idAtCell_filled _ _ _

namespace LightInput

variable {compact written : LightInput} {properties : LightProperties}

/--
Some sections that are stored as air alone are written out, and nothing else
is changed.
-/
structure WritesOutAir (compact written : LightInput) : Prop where
  size_eq : compact.sections.size = written.sections.size
  section_cases : ∀ (slot : Nat) (palette other : Palette),
    compact.sections[slot]? = some palette →
    written.sections[slot]? = some other →
      other = palette ∨ palette.single? = some air ∧ other.IndexedAir
  neighborSections_eq : compact.neighborSections = written.neighborSections
  neighborLight_eq : compact.neighborLight = written.neighborLight

theorem WritesOutAir.block_eq
    (rewritten : compact.WritesOutAir written)
    {voxel : Voxel}
    (inRange : voxel.InRange compact.sections.size) :
    blockOf compact.sections voxel = blockOf written.sections voxel := by
  have known : compact.sections[voxel.slot]? = some _ :=
    Array.getElem?_eq_getElem inRange.1
  have otherKnown : written.sections[voxel.slot]? = some _ :=
    Array.getElem?_eq_getElem (rewritten.size_eq ▸ inRange.1)
  rw [blockOf_eq known, blockOf_eq otherKnown]
  rcases rewritten.section_cases _ _ _ known otherKnown with
    same | ⟨single, indexed⟩
  · rw [same]
  · rw [Palette.idAt, Palette.idAtCell_of_single? single,
      indexed.idAt_eq _ _ _ inRange.2.1 inRange.2.2.1 inRange.2.2.2]

theorem WritesOutAir.sameReads (rewritten : compact.WritesOutAir written) :
    compact.SameReads written where
  size_eq := rewritten.size_eq
  block_eq := fun _ inRange => rewritten.block_eq inRange
  sky_eq := by
    rw [neighborSky, rewritten.neighborLight_eq]
    exact fun _ _ _ _ _ _ _ _ => rfl
  border_eq := by
    rw [neighborBlock, rewritten.neighborLight_eq]
    exact fun _ _ _ _ _ _ _ _ => rfl

/--
Where air filters nothing, it is the same to sky light how a section of air is
stored.
-/
theorem WritesOutAir.skyLight_eq
    (rewritten : compact.WritesOutAir written)
    (clear : properties.filter air = 0) :
    written.skyLight properties = compact.skyLight properties :=
  (rewritten.sameReads.sameSources clear).skyLight_eq.symm

/-! ## One section of air -/

/-- A column of one section of air, stored as such. -/
def compactAir : LightInput := isolated #[.blocks air]

/-- A column of one section of air, with its cells written out. -/
def writtenAir : LightInput := isolated #[(Palette.blocks air).extended 1]

theorem writesOutAir_writtenAir : compactAir.WritesOutAir writtenAir where
  size_eq := rfl
  section_cases := by
    intro slot palette other known otherKnown
    cases slot with
    | zero =>
        cases known
        cases otherKnown
        exact Or.inr ⟨rfl, Palette.indexedAir_extended 1⟩
    | succ slot => cases known
  neighborSections_eq := rfl
  neighborLight_eq := rfl

/-- No light is lost in a section that is stored as air alone. -/
theorem level_compactAir (properties : LightProperties) :
    (compactAir.skyLight properties).level 0
      (cellIndex 0 0 0) = maxLevel := by
  rw [level_skyLight_zero properties compactAir (by decide) (by decide)
    (by decide), downlightAt,
    Finset.sum_eq_zero, Nat.sub_zero]
  intro height member
  have low : height < 16 := (Finset.mem_Ico.1 member).2
  change stackLoss properties [Palette.blocks air] 0 height = 0
  rw [stackLoss_cons_of_lt _ _ _ low]
  exact if_pos rfl

/--
Where the cells are written out, each of the sixteen below each other takes
its filter.
-/
theorem level_writtenAir (properties : LightProperties) :
    (writtenAir.skyLight properties).level 0 (cellIndex 0 0 0) =
      maxLevel - 16 * properties.filter air := by
  have indexed := Palette.indexedAir_extended 1
  have loss : ∀ height ∈ Finset.Ico 0 16,
      stackLoss properties [(Palette.blocks air).extended 1] 0 height =
        properties.filter air := by
    intro height member
    have low := (Finset.mem_Ico.1 member).2
    rw [stackLoss_cons_of_lt _ _ _ low, layerLoss, indexed.indexed,
      if_neg nofun, layerFilter,
      indexed.idAt_eq _ _ _ (by decide) low (by decide)]
  rw [level_skyLight_zero properties writtenAir (by decide) (by decide)
    (by decide)]
  change maxLevel - ∑ height ∈ Finset.Ico 0 16,
    stackLoss properties [(Palette.blocks air).extended 1] 0 height = _
  rw [Finset.sum_congr rfl loss, Finset.sum_const, Nat.card_Ico]
  rfl

/--
For the tables that can be built, it is the same to sky light how sections of
air are stored exactly when the last description of air gives it no filter.
-/
theorem skyLight_writtenOut_eq_iff
    {entries : List MappingTable.Registration}
    {sourceAir replacement : UInt32}
    {table : MappingTable}
    (built : entries.foldlM MappingTable.register
      (.create sourceAir replacement) = .ok table) :
    (∀ compact written : LightInput, compact.WritesOutAir written →
      written.skyLight table.light = compact.skyLight table.light) ↔
      (MappingTable.airAfter entries).filter = 0 := by
  have described :
      table.light.filter air = (MappingTable.airAfter entries).filter :=
    congrArg BlockState.filter (MappingTable.state_air_of_registered built)
  rw [← described]
  constructor
  · intro same
    have levels :=
      congrArg (fun light : LightData => light.level 0 (cellIndex 0 0 0))
        (same compactAir writtenAir writesOutAir_writtenAir)
    simp only [level_compactAir, level_writtenAir] at levels
    unfold maxLevel at levels
    omega
  · intro clear compact written rewritten
    exact rewritten.skyLight_eq clear

/-- Air is made opaque and then described anew as it was at the start. -/
def clearAirAgain : List MappingTable.Registration :=
  [.state air .opaqueSolid, .fallbackBiome 1, .state air .transparent]

theorem skyLight_writtenOut_clearAirAgain :
    ∃ table, clearAirAgain.foldlM MappingTable.register
      (.create 0 0) = .ok table ∧
      ∀ compact written : LightInput, compact.WritesOutAir written →
        written.skyLight table.light = compact.skyLight table.light := by
  have built : ∃ table,
      clearAirAgain.foldlM MappingTable.register (.create 0 0) = .ok table :=
    ⟨_, rfl⟩
  obtain ⟨table, built⟩ := built
  exact ⟨table, built, (skyLight_writtenOut_eq_iff built).2 rfl⟩

/--
Air that was made opaque keeps the light out only where its cells are written
out.
-/
theorem skyLight_writtenAir_ne_of_opaqueAir :
    ∃ table, [MappingTable.Registration.state air .opaqueSolid].foldlM
      MappingTable.register (.create 0 0) = .ok table ∧
      compactAir.WritesOutAir writtenAir ∧
      writtenAir.skyLight table.light ≠ compactAir.skyLight table.light := by
  have built : ∃ table,
    [MappingTable.Registration.state air .opaqueSolid].foldlM
      MappingTable.register (.create 0 0) = .ok table :=
    ⟨_, rfl⟩
  obtain ⟨table, built⟩ := built
  have opaqueAir : table.light.filter air = 15 :=
    congrArg BlockState.filter (MappingTable.state_air_of_registered built)
  refine ⟨table, built, writesOutAir_writtenAir, fun same => ?_⟩
  have levels :=
    congrArg (fun light : LightData => light.level 0 (cellIndex 0 0 0)) same
  simp only [level_compactAir, level_writtenAir, opaqueAir] at levels
  exact absurd levels (by decide)

end LightInput

end VoxelRelay
