import Mathlib.Tactic.SplitIfs
import VoxelRelay.Conversion.Cell

/-!
# What every registered table knows

A fact that holds of a fresh table and that no registration breaks holds of
every table that is built.  So source air is shown as air whatever else is
registered: it is known from the start, and no second entry for it is taken.
-/

namespace VoxelRelay.MappingTable

variable {entries : List Registration} {start table : MappingTable}

/-! ## Registrations one by one -/

/-- Whether a table has nothing yet for what may have only one entry. -/
def Admits (table : MappingTable) : Registration → Prop
  | .block source _ _ => ¬ table.blocks.contains source
  | .state id _ => ¬ (id ≠ air ∧ table.states.contains id)
  | .legacy former _ => ¬ table.legacy.contains former
  | .biome source _ => ¬ table.biomes.contains source
  | .fallbackBiome _ | .entity _ _ | .entityState _ _ => True

/-- The table with one more entry. -/
def added (table : MappingTable) : Registration → MappingTable
  | .block source destination tag =>
      { table with blocks := table.blocks.insert source ⟨destination, tag⟩ }
  | .state id description =>
      { table with states := table.states.insert id description }
  | .legacy former current =>
      { table with legacy := table.legacy.insert former current }
  | .biome source destination =>
      { table with biomes := table.biomes.insert source destination }
  | .fallbackBiome id => { table with fallbackBiome := id }
  | .entity tag typeId =>
      { table with entityTypes := table.entityTypes.insert tag typeId }
  | .entityState tag state =>
      { table with entityStates := table.entityStates.insert tag state }

/-- A registration adds its entry, and is refused only where it has to be. -/
theorem register_eq_ok_iff {entry : Registration} :
    start.register entry = .ok table ↔
      start.Admits entry ∧ start.added entry = table := by
  cases entry with
  | block => simp only [register]; split <;> simp_all [Admits, added]
  | state => simp only [register]; split <;> simp_all [Admits, added]
  | legacy => simp only [register]; split <;> simp_all [Admits, added]
  | biome => simp only [register]; split <;> simp_all [Admits, added]
  | fallbackBiome => simp [register, Admits, added]
  | entity => simp [register, Admits, added]
  | entityState => simp [register, Admits, added]

/-- What each registration of a list keeps holds once all of them are made. -/
theorem foldlM_register_induction
    {holds : MappingTable → Prop}
    (step : ∀ entry ∈ entries, ∀ before : MappingTable, before.Admits entry →
      holds before → holds (before.added entry))
    (built : entries.foldlM register start = .ok table)
    (initially : holds start) :
    holds table := by
  induction entries generalizing start with
  | nil =>
      cases built
      exact initially
  | cons entry entries ih =>
      rw [List.foldlM_cons] at built
      cases registered : start.register entry with
      | error error =>
          rw [registered] at built
          cases built
      | ok next =>
          rw [registered] at built
          obtain ⟨admitted, rfl⟩ := register_eq_ok_iff.1 registered
          exact ih
            (fun other member => step other (List.mem_cons_of_mem _ member))
            built (step entry List.mem_cons_self start admitted initially)

/-! ## Source air -/

/-- Source air is shown as air and carries no tag. -/
def ShowsAir (table : MappingTable) : Prop :=
  table.blocks[table.sourceAir]? = some ⟨air, none⟩

theorem showsAir_create (sourceAir replacement : UInt32) :
    (create sourceAir replacement).ShowsAir :=
  Std.HashMap.getElem?_insert_self

theorem ShowsAir.added
    (shows : table.ShowsAir)
    {entry : Registration}
    (admitted : table.Admits entry) :
    (table.added entry).ShowsAir := by
  cases entry with
  | block source destination tag =>
      have other : source ≠ table.sourceAir := by
        rintro rfl
        exact admitted
          (Std.HashMap.contains_eq_isSome_getElem?.trans (shows ▸ rfl))
      refine Std.HashMap.getElem?_insert.trans ?_
      rw [if_neg (by simpa [MappingTable.added] using other)]
      exact shows
  | _ => exact shows

theorem showsAir_of_registered
    {sourceAir replacement : UInt32}
    (built : entries.foldlM register (.create sourceAir replacement) =
      .ok table) :
    table.ShowsAir :=
  foldlM_register_induction
    (fun _ _ _ admitted shows => shows.added admitted) built
    (showsAir_create sourceAir replacement)

namespace ShowsAir

variable (shows : table.ShowsAir)
include shows

theorem destinationOrAir_sourceAir :
    table.destinationOrAir table.sourceAir = air := by
  rw [destinationOrAir, destination?, shows]
  rfl

theorem tag?_sourceAir : table.tag? table.sourceAir = none := by
  rw [tag?, shows]
  rfl

theorem isWater_sourceAir : table.isWater table.sourceAir = false := by
  rw [isWater, shows.tag?_sourceAir]
  rfl

end ShowsAir

/-! ## States of block entities -/

/-- A registration for blocks with a record. -/
def Registration.IsEntityState : Registration → Prop
  | .entityState _ _ => True
  | _ => False

theorem entityStates_added
    {entry : Registration}
    (other : ¬ entry.IsEntityState) :
    (table.added entry).entityStates = table.entityStates := by
  cases entry with
  | entityState tag state => exact absurd trivial other
  | _ => rfl

/-- Without a registration for it, no record puts another state in place. -/
theorem entityStates_of_registered
    {sourceAir replacement : UInt32}
    (none : ∀ entry ∈ entries, ¬ entry.IsEntityState)
    (built : entries.foldlM register (.create sourceAir replacement) =
      .ok table) :
    table.entityStates = ∅ :=
  @foldlM_register_induction _ _ _ (fun table => table.entityStates = ∅)
    (fun entry member _ _ before =>
      (entityStates_added (none entry member)).trans before)
    built rfl

end VoxelRelay.MappingTable
