import VoxelRelay.Proofs.StoreRuns

/-!
# What operations on a store leave alone

Changes of blocks and records, wishes and arriving sections touch the columns,
what is due to be sent, and the wishes; what was derived from columns stays as
it is, or is forgotten with the column, until a tick comes to it.  That is the
induction `derived_induction`.
-/

namespace VoxelRelay.Store

/--
A column within the radius of the center starts anew, with nothing derived
from it.
-/
theorem createColumn_of_renders
    {store : Store}
    {pos : ColumnPos}
    (inside : store.view.renders pos = true)
    (declared : Nat) :
    (store.createColumn pos declared).store =
      { store.forgetDerived pos with
        columns :=
          store.columns.insert pos
            (.create pos store.sectionCount declared) } := by
  have loads : store.view.loads pos = true := by
    rw [ViewWindow.loads, inside, Bool.true_or]
  rw [createColumn, if_pos loads]
  simp only [inside, if_true]
  rfl

/-- Changing a column changes the columns only. -/
theorem modifyColumn_eq
    (store : Store)
    (pos : ColumnPos)
    (change : Column → Column) :
    store.modifyColumn pos change =
      { store with columns := (store.modifyColumn pos change).columns } := by
  unfold modifyColumn
  split <;> rfl

theorem modifySection_eq
    (store : Store)
    (pos : SectionPos)
    (change : Section → Section) :
    store.modifySection pos change =
      { store with columns := (store.modifySection pos change).columns } := by
  unfold modifySection
  split
  · exact store.modifyColumn_eq _ _
  · rfl

theorem applyChange_eq
    (store : Store)
    (pos : BlockPos)
    (layer : Nat)
    (source : UInt32)
    (content : Section) :
    (store.applyChange pos layer source content).store =
      { store with
        columns :=
          (store.applyChange pos layer source content).store.columns } := by
  unfold applyChange
  simp only
  split
  · rfl
  · simp only
    split
    · rw [modifyColumn_eq, modifySection_eq]
    · exact store.modifySection_eq _ _

/-- A block change changes the columns only. -/
theorem changeBlock_eq
    (store : Store)
    (pos : BlockPos)
    (layer : Nat)
    (source : UInt32) :
    (store.changeBlock pos layer source).store =
      { store with
        columns := (store.changeBlock pos layer source).store.columns } := by
  unfold changeBlock
  split
  · rfl
  · split
    · rfl
    · simp only
      split
      · exact store.modifySection_eq _ _
      · exact store.applyChange_eq _ _ _ _

/--
A block change that keeps the tag rewrites the section, if its content is
there.
-/
theorem changeBlock_of_same_tag
    {store : Store}
    {pos : BlockPos}
    {layer slot : Nat}
    {source : UInt32}
    {column : Column}
    {content changed : Section}
    (loaded : store.column? pos.column = some column)
    (inside : store.slot? pos.sectionPos.y = some slot)
    (found : column.section? slot = some content)
    (arrived : content.pending = none)
    (layerLt : layer < maxLayers)
    (written : content.setBlock layer pos.inSection.1 pos.inSection.2.1
      pos.inSection.2.2 store.table.sourceAir source = some changed)
    (same : store.table.tag?
      ((content.blockAt? layer pos.inSection.1 pos.inSection.2.1
          pos.inSection.2.2).getD store.table.sourceAir) =
          store.table.tag? source) :
    (store.changeBlock pos layer source).store =
      store.modifyColumn pos.column
        (·.modifySection slot fun _ => changed) := by
  have there : store.section? pos.sectionPos = some content := by
    have column : store.column? pos.sectionPos.column = some column := loaded
    simp [section?, inside, column, found]
  have refused : content.bufferEdit
      ⟨pos.inSection.1, pos.inSection.2.1, pos.inSection.2.2, layer, source⟩ =
        none := by
    simp [Section.bufferEdit, arrived]
  rw [changeBlock, if_neg (Nat.not_le.2 layerLt), there]
  simp only [refused, applyChange, written, same, bne_self_eq_false,
    Bool.false_eq_true, if_false, modifySection, inside]
  rfl

/-- A block change tells the client at most what to detach from the block. -/
theorem messages_changeBlock
    (store : Store)
    (pos : BlockPos)
    (layer : Nat)
    (source : UInt32) :
    ∀ message ∈ (store.changeBlock pos layer source).messages,
      message = .detach (.block pos) := by
  unfold changeBlock
  split
  · exact fun _ member => absurd member List.not_mem_nil
  · split
    · exact fun _ member => absurd member List.not_mem_nil
    · simp only
      split
      · exact fun _ member => absurd member List.not_mem_nil
      · unfold applyChange
        simp only
        split
        · exact fun _ member => absurd member List.not_mem_nil
        · simp only
          split
          · exact fun _ => List.mem_singleton.1
          · exact fun _ member => absurd member List.not_mem_nil

/--
A section that arrives changes its column, what is due to be sent, and what is
under way.
-/
theorem mergeSection_eq
    (store : Store)
    (pos : SectionPos)
    (content : Section)
    (entities : List SourceEntity) :
    (store.mergeSection pos content entities).store =
      { store with
        columns := (store.mergeSection pos content entities).store.columns
        dirty := (store.mergeSection pos content entities).store.dirty
        inFlight := store.inFlight.erase pos } ∧
    (store.mergeSection pos content entities).messages = [] := by
  unfold mergeSection
  simp only
  split
  · exact ⟨rfl, rfl⟩
  · exact ⟨rfl, rfl⟩

theorem want_eq
    (store : Store)
    (pos : SectionPos) :
    (store.want pos).1 =
      { store with wanted := (store.want pos).1.wanted } := by
  unfold want
  split <;> rfl

theorem wantRange_eq
    (store : Store)
    (pos : ColumnPos)
    (first last : Int32) :
    store.wantRange pos first last =
      { store with wanted := (store.wantRange pos first last).wanted } := by
  unfold wantRange
  generalize List.range (last.toInt - first.toInt).toNat = steps
  induction steps generalizing store with
  | nil => rfl
  | cons step rest ih =>
      rw [List.foldl_cons, ih, want_eq]

/-! ## What was derived from columns -/

section

variable
    (holds : Store → Prop)
    (same : ∀ store other : Store, other.sent = store.sent →
      other.converted = store.converted → other.light = store.light →
      other.relight = store.relight → holds store → holds other)
    (forget : ∀ (store : Store) (pos : ColumnPos), holds store →
      holds (store.forgetDerived pos))
include same forget

theorem derived_unloadColumn
    {store : Store}
    (start : holds store)
    (pos : ColumnPos) :
    holds (store.unloadColumn pos).store := by
  unfold unloadColumn
  split
  · exact start
  · exact same (store.forgetDerived pos) _ rfl rfl rfl rfl
      (forget store pos start)

theorem derived_createColumn
    {store : Store}
    (start : holds store)
    (pos : ColumnPos)
    (declared : Nat) :
    holds (store.createColumn pos declared).store := by
  have forgotten := forget store pos start
  unfold createColumn
  split
  · dsimp only
    split <;> exact same (store.forgetDerived pos) _ rfl rfl rfl rfl forgotten
  · exact start

theorem derived_unloadOutsiders
    {store : Store}
    (start : holds store)
    (view : ViewWindow) :
    holds { store with view := view }.unloadOutsiders.store :=
  unloadAll_induction (fun store _ => holds store)
    (fun _ _ pos before => derived_unloadColumn holds same forget before pos)
    (same store { store with view := view } rfl rfl rfl rfl start) _

/--
Nothing but a tick derives anything from columns: what depends on that alone,
and is kept where a column is forgotten, is kept by every other operation.
-/
theorem derived_induction
    {store : Store}
    (start : holds store)
    {operation : StoreOperation}
    (other : ∀ cache spawned, operation ≠ .tick cache spawned) :
    holds (store.perform operation).1 := by
  cases operation with
  | createColumn pos declared =>
      exact derived_createColumn holds same forget start pos declared
  | unloadColumn pos => exact derived_unloadColumn holds same forget start pos
  | setCenter center =>
      exact derived_unloadOutsiders holds same forget start _
  | setRadius radius =>
      exact derived_unloadOutsiders holds same forget start _
  | setPlayer player => exact same store _ rfl rfl rfl rfl start
  | markDirty pos => exact same store _ rfl rfl rfl rfl start
  | want pos =>
      rw [perform, want_eq]
      exact same store _ rfl rfl rfl rfl start
  | wantRange pos first last =>
      rw [perform, wantRange_eq]
      exact same store _ rfl rfl rfl rfl start
  | mergeSection pos content entities =>
      change holds (store.mergeSection pos content entities).store
      rw [(store.mergeSection_eq pos content entities).1]
      exact same store _ rfl rfl rfl rfl start
  | changeBlock pos layer source =>
      change holds (store.changeBlock pos layer source).store
      rw [changeBlock_eq]
      exact same store _ rfl rfl rfl rfl start
  | addEntity entity =>
      change holds (store.modifyColumn entity.position.column _)
      rw [modifyColumn_eq]
      exact same store _ rfl rfl rfl rfl start
  | tick cache spawned => exact absurd rfl (other cache spawned)

end

end VoxelRelay.Store
