import VoxelRelay.Proofs.ColumnQueues
import VoxelRelay.Proofs.StoreRuns

/-!
# What is derived from a column belongs to a loaded column

A store keeps the columns that were sent, their converted blocks, their light
and the columns due to be lit anew in four collections of their own.  They are
changed in different places, but always so that a sent column has its blocks
and its light, that nothing else has, and that only sent columns are due to be
lit anew.  As a column that goes takes all of this with it, whatever is kept is
of a column that is loaded.
-/

namespace VoxelRelay

namespace Column

theorem pos_removeEntityAt
    (column : Column)
    (pos : BlockPos) :
    (column.removeEntityAt pos).pos = column.pos := by
  unfold removeEntityAt
  split <;> rfl

theorem pos_putEntity
    (column : Column)
    (entity : SourceEntity) :
    (column.putEntity entity).pos = column.pos :=
  column.pos_removeEntityAt entity.position

theorem pos_fill
    (column : Column)
    (slot : Nat)
    (content : Section)
    (sourceAir : UInt32)
    (entities : List SourceEntity) :
    (column.fill slot content sourceAir entities).pos = column.pos := by
  have kept : ∀ (records : List SourceEntity) (filled : Column),
      (records.foldl putEntity filled).pos = filled.pos := by
    intro records
    induction records with
    | nil => exact fun _ => rfl
    | cons entity rest ih =>
        exact fun filled => (ih _).trans (filled.pos_putEntity entity)
  exact kept entities _

end Column

namespace Store

/-- How the collections of a store fit together. -/
structure Consistent (store : Store) : Prop where
  converted_iff : ∀ pos, pos ∈ store.converted ↔ pos ∈ store.sent
  light_iff : ∀ pos, pos ∈ store.light ↔ pos ∈ store.sent
  loaded_of_sent : ∀ pos, pos ∈ store.sent → pos ∈ store.columns
  sent_of_relight : ∀ pos, store.relight.contains pos = true →
    pos ∈ store.sent
  pos_eq : ∀ (pos : ColumnPos) (column : Column),
    store.columns[pos]? = some column → column.pos = pos

/-- The window, the wishes and what is due to be sent do not matter. -/
theorem Consistent.congr
    {store other : Store}
    (consistent : store.Consistent)
    (columns : other.columns = store.columns)
    (sent : other.sent = store.sent)
    (converted : other.converted = store.converted)
    (light : other.light = store.light)
    (relight : other.relight = store.relight) :
    other.Consistent where
  converted_iff := by
    rw [converted, sent]
    exact consistent.converted_iff
  light_iff := by
    rw [light, sent]
    exact consistent.light_iff
  loaded_of_sent := by
    rw [sent, columns]
    exact consistent.loaded_of_sent
  sent_of_relight := by
    rw [relight, sent]
    exact consistent.sent_of_relight
  pos_eq := by
    rw [columns]
    exact consistent.pos_eq

theorem consistent_create
    (settings : Settings)
    (converter : Converter) :
    (create settings converter).Consistent where
  converted_iff := fun _ => by simp [create]
  light_iff := fun _ => by simp [create]
  loaded_of_sent := fun _ sent => absurd sent Std.TreeSet.not_mem_emptyc
  sent_of_relight :=
    fun pos waits => absurd waits (ColumnQueue.not_contains_empty pos)
  pos_eq := fun _ _ known => by simp [create] at known

variable {store : Store} (consistent : store.Consistent)
include consistent

theorem Consistent.exists_converted
    {pos : ColumnPos}
    (sent : pos ∈ store.sent) :
    ∃ palettes, store.converted[pos]? = some palettes := by
  rwa [← consistent.converted_iff, Std.TreeMap.mem_iff_isSome_getElem?,
    Option.isSome_iff_exists] at sent

theorem Consistent.exists_light
    {pos : ColumnPos}
    (sent : pos ∈ store.sent) :
    ∃ light, store.light[pos]? = some light := by
  rwa [← consistent.light_iff, Std.TreeMap.mem_iff_isSome_getElem?,
    Option.isSome_iff_exists] at sent

theorem Consistent.sent_of_converted
    {pos : ColumnPos}
    {palettes : Array Palette}
    (known : store.converted[pos]? = some palettes) :
    pos ∈ store.sent := by
  rw [← consistent.converted_iff, Std.TreeMap.mem_iff_isSome_getElem?, known]
  rfl

theorem Consistent.sent_of_light
    {pos : ColumnPos}
    {light : ColumnLight}
    (known : store.light[pos]? = some light) :
    pos ∈ store.sent := by
  rw [← consistent.light_iff, Std.TreeMap.mem_iff_isSome_getElem?, known]
  rfl

/-! ## Columns coming, going and changing -/

/--
What was derived from a column goes, while the columns may change at its
place.
-/
theorem Consistent.replace
    (pos : ColumnPos)
    {columns : Std.TreeMap ColumnPos Column}
    (kept : ∀ other, other ≠ pos → columns[other]? = store.columns[other]?)
    (here : ∀ column, columns[pos]? = some column → column.pos = pos) :
    Consistent { store.forgetDerived pos with columns := columns } where
  converted_iff := by
    intro other
    have before := consistent.converted_iff other
    simp [forgetDerived, Std.TreeMap.mem_erase, Std.TreeSet.mem_erase, before]
  light_iff := by
    intro other
    have before := consistent.light_iff other
    simp [forgetDerived, Std.TreeMap.mem_erase, Std.TreeSet.mem_erase, before]
  loaded_of_sent := by
    intro other sent
    simp only [forgetDerived, Std.TreeSet.mem_erase] at sent
    obtain ⟨different, sent⟩ := sent
    have apart : other ≠ pos := by
      rintro rfl
      exact different Std.ReflCmp.compare_self
    have loaded := consistent.loaded_of_sent other sent
    rw [Std.TreeMap.mem_iff_isSome_getElem?] at loaded ⊢
    rwa [kept other apart]
  sent_of_relight := by
    intro other waits
    obtain ⟨apart, before⟩ := (ColumnQueue.contains_remove_iff _ _ _).1 waits
    simp only [forgetDerived, Std.TreeSet.mem_erase]
    refine ⟨?_, consistent.sent_of_relight other before⟩
    intro same
    exact apart (Std.LawfulEqCmp.eq_of_compare same).symm
  pos_eq := by
    intro other column known
    by_cases same : other = pos
    · subst same
      exact here column known
    · apply consistent.pos_eq other column
      rw [← kept other same]
      exact known

theorem Consistent.createColumn
    (pos : ColumnPos)
    (declared : Nat) :
    (store.createColumn pos declared).store.Consistent := by
  have started : Consistent { store.forgetDerived pos with
      columns :=
        store.columns.insert pos
          (.create pos store.sectionCount declared) } := by
    apply consistent.replace pos
    · intro other apart
      rw [Std.TreeMap.getElem?_insert, if_neg]
      exact fun same => apart (Std.LawfulEqCmp.eq_of_compare same).symm
    · intro column known
      rw [Std.TreeMap.getElem?_insert_self] at known
      cases known
      rfl
  unfold Store.createColumn
  split
  · simp only
    split
    · exact started
    · exact started
  · exact consistent

theorem Consistent.unloadColumn (pos : ColumnPos) :
    (store.unloadColumn pos).store.Consistent := by
  have dropped : Consistent { store.forgetDerived pos with
      columns := store.columns.erase pos } := by
    apply consistent.replace pos
    · intro other apart
      rw [Std.TreeMap.getElem?_erase, if_neg]
      exact fun same => apart (Std.LawfulEqCmp.eq_of_compare same).symm
    · intro column known
      rw [Std.TreeMap.getElem?_erase_self] at known
      cases known
  unfold Store.unloadColumn
  split
  · exact consistent
  · exact dropped

theorem Consistent.unloadAll (positions : List ColumnPos) :
    (store.unloadAll positions).1.Consistent :=
  unloadAll_induction (fun store _ => store.Consistent)
    (fun _ _ pos before => before.unloadColumn pos) consistent positions

theorem Consistent.setView (view : ViewWindow) :
    Consistent { store with view := view } :=
  consistent.congr rfl rfl rfl rfl rfl

theorem Consistent.modify
    (pos : ColumnPos)
    {change : Column → Column}
    (stays : ∀ column, (change column).pos = column.pos) :
    Consistent { store with columns := store.columns.modify pos change } where
  converted_iff := consistent.converted_iff
  light_iff := consistent.light_iff
  loaded_of_sent := by
    intro other sent
    exact Std.TreeMap.mem_modify.2 (consistent.loaded_of_sent other sent)
  sent_of_relight := consistent.sent_of_relight
  pos_eq := by
    intro other column known
    simp only [Std.TreeMap.getElem?_modify] at known
    split at known
    · next same =>
        obtain ⟨old, oldKnown, rfl⟩ := Option.map_eq_some_iff.1 known
        rw [stays old, ← Std.LawfulEqCmp.eq_of_compare same]
        exact consistent.pos_eq pos old oldKnown
    · exact consistent.pos_eq other column known

theorem Consistent.modifyColumn
    (pos : ColumnPos)
    {change : Column → Column}
    (stays : ∀ column, (change column).pos = column.pos) :
    (store.modifyColumn pos change).Consistent := by
  unfold Store.modifyColumn
  split
  · exact consistent.modify pos stays
  · exact consistent

theorem Consistent.modifySection
    (pos : SectionPos)
    (change : Section → Section) :
    (store.modifySection pos change).Consistent := by
  unfold Store.modifySection
  split
  · exact consistent.modifyColumn pos.column fun _ => rfl
  · exact consistent

theorem Consistent.applyChange
    (pos : BlockPos)
    (layer : Nat)
    (source : UInt32)
    (content : Section) :
    (store.applyChange pos layer source content).store.Consistent := by
  unfold Store.applyChange
  simp only
  split
  · exact consistent
  · next changed _ =>
      have written := consistent.modifySection pos.sectionPos fun _ => changed
      simp only
      split
      · exact written.modifyColumn pos.column fun column =>
          column.pos_removeEntityAt pos
      · exact written

theorem Consistent.changeBlock
    (pos : BlockPos)
    (layer : Nat)
    (source : UInt32) :
    (store.changeBlock pos layer source).store.Consistent := by
  unfold Store.changeBlock
  split
  · exact consistent
  · split
    · exact consistent
    · next content _ =>
        simp only
        split
        · exact consistent.modifySection pos.sectionPos _
        · exact consistent.applyChange pos layer source content

theorem Consistent.mergeSection
    (pos : SectionPos)
    (content : Section)
    (entities : List SourceEntity) :
    (store.mergeSection pos content entities).store.Consistent := by
  have landed :
      Consistent { store with inFlight := store.inFlight.erase pos } :=
    consistent.congr rfl rfl rfl rfl rfl
  unfold Store.mergeSection
  simp only
  split
  · exact landed
  · next slot _ =>
      have filled := landed.modify pos.column fun column =>
        column.pos_fill slot (content.normalize store.table)
          store.table.sourceAir entities
      exact filled.congr rfl rfl rfl rfl rfl

/-! ## Wishes -/

theorem Consistent.want (pos : SectionPos) :
    (store.want pos).1.Consistent := by
  unfold Store.want
  split
  · exact consistent.congr rfl rfl rfl rfl rfl
  · exact consistent

theorem Consistent.wantRange
    (pos : ColumnPos)
    (first last : Int32) :
    (store.wantRange pos first last).Consistent := by
  unfold Store.wantRange
  generalize List.range (last.toInt - first.toInt).toNat = steps
  induction steps generalizing store with
  | nil => exact consistent
  | cons step rest ih => exact ih (consistent.want _)

/-! ## Sending and lighting -/

/-- A loaded column becomes one that was sent when it gets blocks and light. -/
theorem Consistent.send
    {pos : ColumnPos}
    (loaded : pos ∈ store.columns)
    (palettes : Array Palette)
    (light : ColumnLight) :
    Consistent { store with
      converted := store.converted.insert pos palettes
      light := store.light.insert pos light
      sent := store.sent.insert pos } where
  converted_iff := by
    intro other
    simp [Std.TreeMap.mem_insert, Std.TreeSet.mem_insert,
      consistent.converted_iff other]
  light_iff := by
    intro other
    simp [Std.TreeMap.mem_insert, Std.TreeSet.mem_insert,
      consistent.light_iff other]
  loaded_of_sent := by
    intro other sent
    rcases Std.TreeSet.mem_insert.1 sent with same | before
    · rwa [← Std.LawfulEqCmp.eq_of_compare same]
    · exact consistent.loaded_of_sent other before
  sent_of_relight := by
    intro other waits
    exact Std.TreeSet.mem_insert.2
      (Or.inr (consistent.sent_of_relight other waits))
  pos_eq := consistent.pos_eq

/-- A sent column may get other light. -/
theorem Consistent.relit
    {pos : ColumnPos}
    (sent : pos ∈ store.sent)
    (light : ColumnLight) :
    Consistent { store with light := store.light.insert pos light } where
  converted_iff := consistent.converted_iff
  light_iff := by
    intro other
    rw [Std.TreeMap.mem_insert, consistent.light_iff other]
    constructor
    · rintro (same | before)
      · rwa [← Std.LawfulEqCmp.eq_of_compare same]
      · exact before
    · exact Or.inr
  loaded_of_sent := consistent.loaded_of_sent
  sent_of_relight := consistent.sent_of_relight
  pos_eq := consistent.pos_eq

/-- The columns due to be lit anew may become others that were sent. -/
theorem Consistent.queueRelight
    {queue : ColumnQueue}
    (sent : ∀ pos, queue.contains pos = true → pos ∈ store.sent) :
    Consistent { store with relight := queue } where
  converted_iff := consistent.converted_iff
  light_iff := consistent.light_iff
  loaded_of_sent := consistent.loaded_of_sent
  sent_of_relight := sent
  pos_eq := consistent.pos_eq

theorem Consistent.takeRelight
    {pos : ColumnPos}
    {relight : ColumnQueue}
    (taken : store.relight.pop? = some (pos, relight)) :
    Consistent { store with relight := relight } :=
  consistent.queueRelight fun other waits =>
    consistent.sent_of_relight other
      (((ColumnQueue.pop?_eq_some taken).2 other).1 waits).2

theorem Consistent.relightNeighbors (pos : ColumnPos) :
    (store.relightNeighbors pos).Consistent := by
  apply relightNeighbors_induction Consistent _ consistent
  intro store neighbor sent consistent
  apply consistent.queueRelight
  intro other waits
  rcases (ColumnQueue.contains_push_iff _ _ _).1 waits with rfl | before
  · exact sent
  · exact consistent.sent_of_relight other before

omit consistent

theorem Consistent.sendColumn
    {state : TickState}
    (consistent : state.store.Consistent)
    (pos : ColumnPos) :
    (state.sendColumn pos).store.Consistent := by
  unfold TickState.sendColumn
  simp only
  split
  · exact consistent
  · next column known =>
      have loaded : pos ∈ state.store.columns := by
        unfold Store.column? at known
        split at known
        · rw [Std.TreeMap.mem_iff_isSome_getElem?, known]
          rfl
        · cases known
      exact (consistent.send loaded _ _).relightNeighbors pos

theorem Consistent.relightColumn
    {state : TickState}
    (consistent : state.store.Consistent)
    (pos : ColumnPos) :
    (state.relightColumn pos).store.Consistent := by
  unfold TickState.relightColumn
  simp only
  split
  · exact consistent
  · next sections known =>
      have sent := consistent.sent_of_converted known
      split
      all_goals split
      · exact consistent.relit sent _
      · exact consistent
      · exact consistent.relit sent _
      · exact consistent

theorem Consistent.sendDue
    (budget : Nat)
    {state : TickState}
    (consistent : state.store.Consistent) :
    (state.sendDue budget).store.Consistent := by
  apply TickState.sendDue_induction (·.store.Consistent) _ consistent
  intro state pos dirty _ consistent
  have taken : Consistent { state.store with dirty := dirty } :=
    consistent.congr rfl rfl rfl rfl rfl
  exact taken.sendColumn pos

theorem Consistent.relightDue
    (budget : Nat)
    {state : TickState}
    (consistent : state.store.Consistent) :
    (state.relightDue budget).store.Consistent :=
  TickState.relightDue_induction (·.store.Consistent)
    (fun _ pos _ taken consistent =>
      (consistent.takeRelight taken).relightColumn pos)
    consistent budget

theorem Consistent.tick
    {store : Store}
    (consistent : store.Consistent)
    (cache : LightCache)
    (spawned : Bool) :
    (store.tick cache spawned).1.store.Consistent := by
  let start : TickState := ⟨store, cache, [], [], ⟨0, 0, 0, 0⟩⟩
  have sent :
      (start.sendDue
        store.settings.scheduler.columnsPerTick).store.Consistent :=
    Consistent.sendDue _ consistent
  have lit := sent.relightDue store.settings.scheduler.lightUpdatesPerTick
  unfold Store.tick
  simp only
  split
  · exact lit.congr rfl rfl rfl rfl rfl
  · exact lit

/-! ## Runs -/

theorem Consistent.perform
    {store : Store}
    (consistent : store.Consistent)
    (operation : StoreOperation) :
    (store.perform operation).1.Consistent := by
  cases operation with
  | createColumn pos declared => exact consistent.createColumn pos declared
  | unloadColumn pos => exact consistent.unloadColumn pos
  | setCenter center => exact (consistent.setView _).unloadAll _
  | setRadius radius => exact (consistent.setView _).unloadAll _
  | setPlayer player => exact consistent.setView _
  | markDirty pos => exact consistent.congr rfl rfl rfl rfl rfl
  | want pos => exact consistent.want pos
  | wantRange pos first last => exact consistent.wantRange pos first last
  | mergeSection pos content entities =>
      exact consistent.mergeSection pos content entities
  | changeBlock pos layer source =>
      exact consistent.changeBlock pos layer source
  | addEntity entity =>
      exact consistent.modifyColumn _ fun column =>
        column.pos_putEntity entity
  | tick cache spawned => exact consistent.tick cache spawned

theorem Consistent.run
    {store : Store}
    (consistent : store.Consistent)
    (operations : List StoreOperation) :
    (store.run operations).Consistent :=
  run_induction Consistent
    (fun _ operation before => before.perform operation) consistent operations

/--
In whatever order columns come and go, are changed, sent and lit anew: exactly
the columns that were sent have converted blocks and light, only they are due
to be lit anew, all of them are loaded, and each loaded column is kept under
its own position.
-/
theorem consistent_run
    (settings : Settings)
    (converter : Converter)
    (operations : List StoreOperation) :
    ((create settings converter).run operations).Consistent :=
  run_induction Consistent
    (fun _ operation consistent => consistent.perform operation)
    (consistent_create settings converter) operations

end Store

end VoxelRelay
