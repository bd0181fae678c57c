import VoxelRelay.Proofs.BlockUpdates
import VoxelRelay.Proofs.SectionRequests

/-!
# What operations make of columns

An operation starts a column anew, drops it, or makes one of a few changes in
it: a block is logged or written, a record is stored, a section is filled.
`columnChange_of_perform` says once what can become of each column, with all
that is known when it does.  What every one of these changes keeps then holds
of every column in every run: this is the induction `columns_run`.
-/

namespace VoxelRelay

namespace Store

/-- What an operation can make of a column that a store holds. -/
inductive ColumnChange
    (store : Store)
    (pos : ColumnPos)
    (old : Column) : StoreOperation → Column → Prop
  | kept (operation : StoreOperation) :
      ColumnChange store pos old operation old
  /-- A section that awaits its content keeps a log of what is changed in it. -/
  | logged {update : BlockUpdate} {slot : Nat}
      (here : update.pos.column = pos)
      (layer : update.layer < maxLayers) (awaits : old.Awaits slot) :
      ColumnChange store pos old
        (.changeBlock update.pos update.layer update.source)
        (old.logged slot update)
  /-- A block is written into a section whose content is there. -/
  | updated {update : BlockUpdate} {slot : Nat}
      (here : update.pos.column = pos)
      (layer : update.layer < maxLayers) (arrived : old.Arrived slot) :
      ColumnChange store pos old
        (.changeBlock update.pos update.layer update.source)
        (old.updated store.table slot update)
  /-- A record is stored in the column in which its position lies. -/
  | recorded {entity : SourceEntity} (here : entity.position.column = pos) :
      ColumnChange store pos old (.addEntity entity) (old.putEntity entity)
  /--
  A delivered section of the column fills its slot, and its records are
  stored.
  -/
  | filled {place : SectionPos} {content : Section} {slot : Nat}
      (here : place.column = pos)
      (accepted : store.accept place content = .ok slot)
        (entities : List SourceEntity) :
      ColumnChange store pos old (.mergeSection place content entities)
        (old.fill slot (content.normalize store.table)
          store.table.sourceAir entities)

/--
Where an operation leads for a column: it is started, or it was there and was
changed.
-/
def Leads
    (store : Store)
    (pos : ColumnPos)
    (operation : StoreOperation)
    (column : Column) : Prop :=
  (∃ declared, operation = .createColumn pos declared ∧
      column = .create pos store.sectionCount declared) ∨
    ∃ old, store.columns[pos]? = some old ∧
      store.ColumnChange pos old operation column

/-! ## Each operation -/

section

variable {store : Store} {pos : ColumnPos} {column : Column}

/-- A column that an operation leaves alone is kept. -/
theorem leads_of_known
    (known : store.columns[pos]? = some column)
    (operation : StoreOperation) :
    store.Leads pos operation column :=
  Or.inr ⟨column, known, .kept operation⟩

theorem columns_of_unloadColumn
    {place : ColumnPos}
    (known : (store.unloadColumn place).store.columns[pos]? = some column) :
    store.columns[pos]? = some column := by
  rw [unloadColumn] at known
  split at known
  · exact known
  · simp only [forgetDerived, Std.TreeMap.getElem?_erase] at known
    split at known
    · cases known
    · exact known

theorem columns_of_unloadAll
    {places : List ColumnPos}
    (known : (store.unloadAll places).1.columns[pos]? = some column) :
    store.columns[pos]? = some column :=
  unloadAll_induction
    (fun after _ =>
      after.columns[pos]? = some column → store.columns[pos]? = some column)
    (fun _ _ _ before known => before (columns_of_unloadColumn known)) id
      places known

theorem columns_of_unloadOutsiders
    {view : ViewWindow}
    (known : { store with view := view }.unloadOutsiders.store.columns[pos]? =
      some column) :
    store.columns[pos]? = some column :=
  @columns_of_unloadAll { store with view := view } pos column _ known

theorem leads_of_createColumn
    {place : ColumnPos}
    {declared : Nat}
    (known : (store.createColumn place declared).store.columns[pos]? =
      some column) :
    store.Leads pos (.createColumn place declared) column := by
  have started (inserted : (store.columns.insert place
      (.create place store.sectionCount declared))[pos]? = some column) :
      store.Leads pos (.createColumn place declared) column := by
    rw [Std.TreeMap.getElem?_insert] at inserted
    split at inserted
    · next same =>
        obtain rfl := Std.LawfulEqCmp.eq_of_compare same
        obtain rfl := Option.some.inj inserted
        exact Or.inl ⟨declared, rfl, rfl⟩
    · exact leads_of_known inserted _
  rw [createColumn] at known
  split at known
  · dsimp only at known
    split at known <;> exact started known
  · exact leads_of_known known _

/-- A section is only accepted for a column that is there. -/
theorem exists_column?_of_accept
    {place : SectionPos}
    {content : Section}
    {slot : Nat}
    (accepted : store.accept place content = .ok slot) :
    ∃ column, store.column? place.column = some column := by
  have loaded : store.isLoaded place.column = true := by
    by_contra missing
    rw [accept, Bool.eq_false_iff.2 missing] at accepted
    split at accepted <;> cases accepted
  exact Option.isSome_iff_exists.1 loaded

theorem leads_of_mergeSection
    {place : SectionPos}
    {content : Section}
    {entities : List SourceEntity}
    (known : (store.mergeSection place content entities).store.columns[pos]? =
      some column) :
    store.Leads pos (.mergeSection place content entities) column := by
  cases accepted : store.accept place content with
  | error refusal =>
      simp only [mergeSection, accepted] at known
      exact leads_of_known known _
  | ok slot =>
      rw [(mergeSection_of_accept accepted entities).2,
        Std.TreeMap.getElem?_modify] at known
      split at known
      · next same =>
          obtain ⟨old, there, rfl⟩ := Option.map_eq_some_iff.1 known
          have here : place.column = pos := Std.LawfulEqCmp.eq_of_compare same
          exact Or.inr ⟨old, here ▸ there, .filled here accepted entities⟩
      · exact leads_of_known known _

theorem leads_of_addEntity
    {entity : SourceEntity}
    (known : (store.addEntity entity).columns[pos]? = some column) :
    store.Leads pos (.addEntity entity) column := by
  rw [addEntity, modifyColumn] at known
  split at known
  · rw [Std.TreeMap.getElem?_modify] at known
    split at known
    · next same =>
        obtain ⟨old, there, rfl⟩ := Option.map_eq_some_iff.1 known
        have here : entity.position.column = pos :=
          Std.LawfulEqCmp.eq_of_compare same
        exact Or.inr ⟨old, here ▸ there, .recorded here⟩
    · exact leads_of_known known _
  · exact leads_of_known known _

/--
A change of a block touches the column in which it lies, if its section is
there.
-/
theorem leads_of_changeBlock
    {update : BlockUpdate}
    (known : (store.changeBlock update.pos update.layer
        update.source).store.columns[pos]? = some column) :
    store.Leads pos (.changeBlock update.pos update.layer update.source)
      column := by
  by_cases layer : update.layer < maxLayers
  · cases found : store.section? update.pos.sectionPos with
    | none =>
        rw [changeBlock, if_neg (Nat.not_le.2 layer), found] at known
        exact leads_of_known known _
    | some content =>
        have whole := found
        simp only [section?, Option.bind_eq_bind, Option.bind_eq_some_iff]
          at whole
        obtain ⟨slot, inside, old, loaded, there⟩ := whole
        have current := columns_of_column? loaded
        have shown := loads_of_column? loaded
        -- What becomes of the column itself is one of two changes; the others
        -- stay.
        have revised (change : Column)
            (after : store.Revised update.pos.sectionPos.column change
              (store.changeBlock update.pos update.layer update.source).store)
            (changed : store.ColumnChange update.pos.column old
              (.changeBlock update.pos update.layer update.source) change) :
            store.Leads pos
              (.changeBlock update.pos update.layer update.source)
              column := by
          by_cases here : pos = update.pos.sectionPos.column
          · subst here
            rw [after.here] at known
            cases known
            exact Or.inr ⟨old, current, changed⟩
          · rw [after.elsewhere pos here] at known
            exact leads_of_known known _
        cases waiting : content.pending with
        | none =>
            exact revised _
              ((revised_self current).changeBlock_of_arrived shown inside
                there layer rfl waiting).2
                (.updated rfl layer ⟨content, there, waiting⟩)
        | some log =>
            exact revised _
              ((revised_self current).changeBlock_of_awaiting shown inside
                there layer rfl waiting).2
                (.logged rfl layer ⟨content, log, there, waiting⟩)
  · rw [changeBlock, if_pos (Nat.not_lt.1 layer)] at known
    exact leads_of_known known _

theorem columns_tick
    (store : Store)
    (cache : LightCache)
    (spawned : Bool) :
    (store.tick cache spawned).1.store.columns = store.columns := by
  obtain ⟨light, relight, wanted, inFlight, after⟩ :=
    store.exists_store_tick cache spawned
  rw [after]
  exact (TickState.sameView_sendDue _
    ⟨store, cache, [], [], ⟨0, 0, 0, 0⟩⟩).columns_eq

/--
Every column after an operation was started by it, or was there and was
changed by it.
-/
theorem columnChange_of_perform
    {operation : StoreOperation}
    (known : (store.perform operation).1.columns[pos]? = some column) :
    store.Leads pos operation column := by
  have kept (before : store.columns[pos]? = some column) :
      store.Leads pos operation column :=
    leads_of_known before operation
  cases operation with
  | createColumn place declared => exact leads_of_createColumn known
  | unloadColumn place => exact kept (columns_of_unloadColumn known)
  | setCenter center => exact kept (columns_of_unloadOutsiders known)
  | setRadius radius => exact kept (columns_of_unloadOutsiders known)
  | setPlayer player => exact kept known
  | markDirty place => exact kept known
  | want place =>
      rw [perform, want_eq] at known
      exact kept known
  | wantRange place first last =>
      rw [perform, wantRange_eq] at known
      exact kept known
  | mergeSection place content entities => exact leads_of_mergeSection known
  | changeBlock place layer source =>
      exact @leads_of_changeBlock store pos column
        ⟨place, layer, source⟩ known
  | addEntity entity => exact leads_of_addEntity known
  | tick cache spawned =>
      have same : (store.perform (.tick cache spawned)).1.columns =
          store.columns :=
        store.columns_tick cache spawned
      rw [same] at known
      exact kept known

end

/-! ## Runs -/

/--
What starting a column gives and every change keeps holds of all columns in
every run.
-/
theorem columns_run
    {holds : ColumnPos → Column → Prop}
    {operations : List StoreOperation}
    (created : ∀ pos count declared, holds pos (.create pos count declared))
    (changed : ∀ operation ∈ operations,
      ∀ (store : Store) (pos : ColumnPos) (old column : Column),
        store.ColumnChange pos old operation column → holds pos old →
        holds pos column)
    {store : Store}
    (start : ∀ (pos : ColumnPos) (column : Column),
      store.columns[pos]? = some column → holds pos column)
    (pos : ColumnPos)
    (column : Column)
    (known : (store.run operations).columns[pos]? = some column) :
    holds pos column := by
  induction operations generalizing store with
  | nil => exact start pos column known
  | cons operation rest ih =>
      refine ih
        (fun later member => changed later (List.mem_cons_of_mem _ member)) ?_
        known
      intro place after there
      rcases columnChange_of_perform there with
        ⟨declared, -, rfl⟩ | ⟨old, before, change⟩
      · exact created _ _ _
      · exact changed operation List.mem_cons_self store place old
          after change
          (start place old before)

end Store

end VoxelRelay
