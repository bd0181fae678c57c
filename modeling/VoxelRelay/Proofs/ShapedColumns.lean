import VoxelRelay.Proofs.ColumnChanges
import VoxelRelay.Proofs.CubicColumns

/-!
# Columns of the right shape

The shape of a section is checked once, when it is delivered.  It stays right
all the same: an edit adds only layers that a section may have, in cubes of
sixteen, and an edit that waits in a log lies within its section and in such a
layer.  A section that awaits its content has no layers of its own, so that
its log is all there is to it.
-/

namespace VoxelRelay

namespace Section

/--
The shape of a section is right if its layers are few enough and all edges
are.
-/
theorem checkShape_eq_ok_iff {content : Section} :
    content.checkShape = .ok () ↔
      content.layers.size ≤ maxLayers ∧
      (∀ palette ∈ content.layers, palette.edge = 16) ∧
        ∀ palette ∈ content.biomes, palette.edge = 16 ∨ palette.edge = 4 := by
  constructor
  · intro shape
    refine ⟨?_, edges_of_checkShape shape⟩
    unfold checkShape at shape
    split at shape
    · cases shape
    · next few => exact Nat.not_lt.1 few
  · rintro ⟨few, layers, biomes⟩
    have uniform :
        content.layers.findIdx? (·.edge != sectionEdge) = none := by
      rw [Array.findIdx?_eq_none_iff]
      intro palette member
      simp [layers palette member, sectionEdge]
    rw [checkShape, if_neg (Nat.not_lt.2 few), uniform]
    dsimp only
    split
    · next palette known => exact if_pos (biomes palette known)
    · rfl

/--
A section as the store keeps it: of the right shape, its log within its
bounds.
-/
structure Shaped (content : Section) : Prop extends content.Checked where
  layers_of_pending : content.pending.isSome = true → content.layers = #[]
  edits : ∀ log ∈ content.pending, ∀ edit ∈ log, edit.layer < maxLayers ∧
    edit.Inside

theorem checked_blank (pending : Option (Array Edit)) :
    Checked ⟨#[], none, pending⟩ where
  shape := checkShape_eq_ok_iff.2 ⟨Nat.zero_le _,
    fun _ member => absurd member (Array.not_mem_empty _), fun _ member =>
      nomatch member⟩
  layers := fun _ member => absurd member (Array.not_mem_empty _)
  biomes := fun _ member => nomatch member

theorem shaped_awaiting : awaiting.Shaped where
  toChecked := checked_blank (some #[])
  layers_of_pending := fun _ => rfl
  edits := by
    rintro log ⟨rfl⟩ edit member
    exact absurd member (Array.not_mem_empty _)

/-- Where nothing is awaited, a section is in shape if its palettes are. -/
theorem Checked.shaped
    {content : Section}
    (checked : content.Checked)
    (arrived : content.pending = none) :
    content.Shaped where
  toChecked := checked
  layers_of_pending := fun waits => by simp [arrived] at waits
  edits := fun log member => by simp [arrived] at member

theorem shaped_empty : empty.Shaped :=
  (checked_blank none).shaped rfl

theorem Checked.cubes
    {content : Section}
    (checked : content.Checked) :
    ∀ palette ∈ content.layers, palette.SectionCube :=
  cubes_of_checkShape checked.shape checked.layers

/-- An edit that is logged waits with the others. -/
theorem Shaped.logged
    {content : Section}
    (shaped : content.Shaped)
    {edit : Edit}
    (layer : edit.layer < maxLayers)
    (inside : edit.Inside) :
    (content.logged edit).Shaped where
  shape := shaped.shape
  layers := shaped.layers
  biomes := shaped.biomes
  layers_of_pending :=
    fun waits =>
      shaped.layers_of_pending (by simpa [Section.logged] using waits)
  edits := by
    rintro log member other known
    obtain ⟨before, there, rfl⟩ := Option.map_eq_some_iff.1 member
    rcases Array.mem_push.1 known with earlier | rfl
    · exact shaped.edits before there other earlier
    · exact ⟨layer, inside⟩

/-- An edit adds layers up to its own, which is one that a section may have. -/
theorem size_layers_edited
    {content : Section}
    (few : content.layers.size ≤ maxLayers)
    (sourceAir : UInt32)
    (edit : Edit) :
    (content.edited sourceAir edit).layers.size ≤ maxLayers := by
  by_cases layer : edit.layer < maxLayers
  · have grown : (content.edited sourceAir edit).layers.size =
        content.layers.size + (edit.layer + 1 - content.layers.size) := by
      simp [edited, setBlock, ensureLayer, Nat.not_le.2 layer, modifyLayer,
        padLayers]
    rw [grown]
    omega
  · simpa [edited, setBlock, ensureLayer, Nat.not_lt.1 layer] using few

theorem biomes_edited
    (sourceAir : UInt32)
    (content : Section)
    (edit : Edit) :
    (content.edited sourceAir edit).biomes = content.biomes := by
  by_cases layer : edit.layer < maxLayers
  · simp [edited, setBlock, ensureLayer, Nat.not_le.2 layer, modifyLayer,
      padLayers]
  · simp [edited, setBlock, ensureLayer, Nat.not_lt.1 layer]

/-- An edit within a section keeps its shape right. -/
theorem Checked.edited
    {content : Section}
    (checked : content.Checked)
    {edit : Edit}
    (inside : edit.Inside)
    (sourceAir : UInt32) :
    (content.edited sourceAir edit).Checked := by
  have cubes := cubes_edited checked.cubes inside sourceAir
  obtain ⟨few, -, biomes⟩ := checkShape_eq_ok_iff.1 checked.shape
  have same := biomes_edited sourceAir content edit
  refine ⟨checkShape_eq_ok_iff.2 ⟨size_layers_edited few sourceAir edit,
    fun palette member => (cubes palette member).edge_eq, ?_⟩,
    fun palette member => (cubes palette member).toWellFormed, ?_⟩
  · rwa [same]
  · rw [same]
    exact checked.biomes

theorem Checked.foldl_edited
    {edits : List Edit}
    (inside : ∀ edit ∈ edits, edit.Inside)
    {content : Section}
    (checked : content.Checked)
    (sourceAir : UInt32) :
    (edits.foldl (Section.edited sourceAir) content).Checked := by
  induction edits generalizing content with
  | nil => exact checked
  | cons edit rest ih =>
      exact ih
        (fun other member => inside other (List.mem_cons_of_mem _ member))
        (checked.edited (inside edit List.mem_cons_self) sourceAir)

/-- Current identifiers in place of legacy ones change no shape. -/
theorem Checked.normalize
    {content : Section}
    (checked : content.Checked)
    (table : MappingTable) :
    (content.normalize table).Checked := by
  have cubes := cubes_normalize checked.cubes table
  obtain ⟨few, -, biomes⟩ := checkShape_eq_ok_iff.1 checked.shape
  exact ⟨checkShape_eq_ok_iff.2 ⟨by simpa [Section.normalize] using few,
    fun palette member => (cubes palette member).edge_eq, biomes⟩,
    fun palette member => (cubes palette member).toWellFormed, checked.biomes⟩

/--
The layers of a section in shape and the biomes of two are in shape together.
-/
theorem Checked.mergeFrom
    {content arriving : Section}
    (checked : content.Checked)
    (fresh : arriving.Checked) :
    (content.mergeFrom arriving).Checked := by
  obtain ⟨few, layers, biomes⟩ := checkShape_eq_ok_iff.1 fresh.shape
  obtain ⟨-, -, oldBiomes⟩ := checkShape_eq_ok_iff.1 checked.shape
  have either (holds : Palette → Prop)
    (new : ∀ palette ∈ arriving.biomes, holds palette)
    (old : ∀ palette ∈ content.biomes, holds palette) :
      ∀ palette ∈ (content.mergeFrom arriving).biomes, holds palette := by
    intro palette member
    cases delivered : arriving.biomes with
    | none =>
        exact old palette
          (by simpa [Section.mergeFrom, delivered] using member)
    | some biomes =>
        exact new palette
          (by simpa [Section.mergeFrom, delivered] using member)
  exact ⟨checkShape_eq_ok_iff.2 ⟨few, layers, either _ biomes oldBiomes⟩,
    fresh.layers, either _ fresh.biomes checked.biomes⟩

/-- A section that is filled is in shape, whatever its log holds. -/
theorem Shaped.filledBy
    {content arriving : Section}
    (shaped : content.Shaped)
    (fresh : arriving.Checked)
    (sourceAir : UInt32) :
    (Section.filledBy sourceAir arriving content).Shaped := by
  have merged := shaped.toChecked.mergeFrom fresh
  cases waiting : content.pending with
  | none =>
      have kept : (content.mergeFrom arriving).pending = none := waiting
      rw [Section.filledBy, applyPending, kept]
      exact merged.shaped kept
  | some log =>
      have taken :
          { content.mergeFrom arriving with pending := none }.Checked :=
        ⟨merged.shape, merged.layers, merged.biomes⟩
      have done := pending_filledBy waiting sourceAir arriving
      rw [filledBy_of_log waiting] at done ⊢
      refine (taken.foldl_edited ?_ sourceAir).shaped done
      intro edit member
      exact (shaped.edits log waiting edit (Array.mem_toList_iff.1 member)).2

end Section

/-! ## Columns -/

namespace Column

/-- A column of as many sections as the world is high, all of them in shape. -/
structure Shaped (column : Column) (count : Nat) : Prop where
  size_eq : column.sections.size = count
  sections : ∀ content ∈ column.sections, content.Shaped

variable {column other : Column} {count : Nat}

theorem Shaped.congr
    (shaped : column.Shaped count)
    (same : other.sections = column.sections) :
    other.Shaped count where
  size_eq := by rw [same, shaped.size_eq]
  sections := by
    rw [same]
    exact shaped.sections

theorem shaped_create
    (pos : ColumnPos)
    (count declared : Nat) :
    (create pos count declared).Shaped count where
  size_eq := by simp [create]
  sections := by
    intro content member
    obtain ⟨slot, -, rfl⟩ := Array.mem_map.1 member
    split
    · exact Section.shaped_empty
    · exact Section.shaped_awaiting

/-- A change of a section that keeps it in shape keeps the column in shape. -/
theorem Shaped.modifySection
    (shaped : column.Shaped count)
    {slot : Nat}
    {change : Section → Section}
    (kept : ∀ content, column.section? slot = some content →
      (change content).Shaped) :
    (column.modifySection slot change).Shaped count where
  size_eq := by
    rw [Column.modifySection, Array.size_modify, shaped.size_eq]
  sections := forall_mem_modify shaped.sections slot kept

theorem Shaped.cubic (shaped : column.Shaped count) : column.Cubic := by
  intro content member
  have kept := shaped.sections content member
  exact ⟨kept.cubes, fun log waits edit known =>
    (kept.edits log waits edit known).2⟩

theorem Shaped.section?
    (shaped : column.Shaped count)
    {slot : Nat}
    {content : Section}
    (found : column.section? slot = some content) :
    content.Shaped :=
  shaped.sections content (Array.mem_of_getElem? found)

end Column

/-! ## Stores -/

/--
The palettes that an operation delivers are well formed, if it delivers any.
-/
def StoreOperation.DeliversWellFormed : StoreOperation → Prop
  | .mergeSection _ content _ =>
      (∀ palette ∈ content.layers, palette.WellFormed) ∧
        ∀ palette ∈ content.biomes, palette.WellFormed
  | _ => True

/-- Whatever an operation makes of a column, the column stays in shape. -/
theorem Column.Shaped.of_columnChange
    {store : Store}
    {pos : ColumnPos}
    {old column : Column}
    {operation : StoreOperation}
    {count : Nat}
    (delivers : operation.DeliversWellFormed)
    (change : store.ColumnChange pos old operation column)
    (shaped : old.Shaped count) :
    column.Shaped count := by
  cases change with
  | kept => exact shaped
  | @logged update slot here layer awaits =>
      exact shaped.modifySection fun content found =>
        (shaped.section? found).logged layer update.inside_edit
  | @updated update slot here layer arrived =>
      obtain ⟨content, found, pending⟩ := arrived
      have written : (old.modifySection slot
          (·.edited store.table.sourceAir update.edit)).Shaped count := by
        refine shaped.modifySection fun other known => ?_
        obtain rfl := Option.some.inj (found.symm.trans known)
        exact ((shaped.section? found).toChecked.edited
          update.inside_edit _).shaped
          ((Section.pending_edited _ _ _).trans pending)
      exact written.congr (old.sections_updated store.table slot update)
  | recorded here => exact shaped.congr (old.sections_removeEntityAt _)
  | @filled place content slot here accepted entities =>
      have fresh : content.Checked :=
        ⟨Store.shape_of_accept accepted, delivers.1, delivers.2⟩
      have stored : (entities.foldl Column.putEntity old).Shaped count :=
        shaped.congr (old.sections_foldl_putEntity entities)
      rw [Column.fill_eq]
      exact stored.modifySection fun other known =>
        (stored.section? known).filledBy (fresh.normalize store.table) _

end VoxelRelay
