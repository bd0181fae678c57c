import VoxelRelay.Proofs.DerivedState
import VoxelRelay.Proofs.StoreFrames
import VoxelRelay.Proofs.TickSteps

/-!
# What becomes of columns that are due

A tick takes columns from the line of those that are due and sends each of
them that the window shows.  What it leaves in the line waits for a later
tick.  A column that the window does not show is passed over: the player may
have moved away from it, which unloads nothing, and nothing makes it due again
when the player returns.
-/

namespace VoxelRelay

namespace Store

/-! ## Stores that show the same columns -/

/-- Two stores hold the same columns and show them in the same way. -/
structure SameView (store other : Store) : Prop where
  settings_eq : other.settings = store.settings
  converter_eq : other.converter = store.converter
  view_eq : other.view = store.view
  columns_eq : other.columns = store.columns

namespace SameView

variable {store other : Store}

theorem refl (store : Store) : store.SameView store :=
  ⟨rfl, rfl, rfl, rfl⟩

theorem trans
    {last : Store}
    (first : store.SameView other)
    (second : other.SameView last) :
    store.SameView last where
  settings_eq := second.settings_eq.trans first.settings_eq
  converter_eq := second.converter_eq.trans first.converter_eq
  view_eq := second.view_eq.trans first.view_eq
  columns_eq := second.columns_eq.trans first.columns_eq

theorem column?_eq
    (same : store.SameView other)
    (pos : ColumnPos) :
    other.column? pos = store.column? pos := by
  rw [column?, same.view_eq, same.columns_eq, column?]

/-- Both stores would send a column in the same form. -/
theorem convert_eq
    (same : store.SameView other)
    (column : Column) :
    other.converter.convert column other.minY =
      store.converter.convert column store.minY := by
  rw [minY, same.converter_eq, same.settings_eq, minY]

end SameView

end Store

namespace TickState

theorem sameView_sendColumn
    (state : TickState)
    (pos : ColumnPos) :
    state.store.SameView (state.sendColumn pos).store := by
  cases loaded : state.store.column? pos with
  | none =>
      rw [sendColumn_of_not_loaded loaded]
      exact .refl _
  | some column =>
      rw [(sendColumn_of_loaded loaded).1, Store.relightNeighbors_eq]
      exact ⟨rfl, rfl, rfl, rfl⟩

/-! ## Messages are only added -/

theorem messages_suffix_sendColumn
    (state : TickState)
    (pos : ColumnPos) :
    state.messages <:+ (state.sendColumn pos).messages := by
  cases loaded : state.store.column? pos with
  | none =>
      have unmoved := sendColumn_of_not_loaded loaded
      exact unmoved.symm ▸ List.suffix_rfl
  | some column =>
      rw [(sendColumn_of_loaded loaded).2]
      exact List.suffix_cons _ _

theorem messages_suffix_sendDue
    (budget : Nat)
    (state : TickState) :
    state.messages <:+ (state.sendDue budget).messages := by
  apply sendDue_induction (state.messages <:+ ·.messages) _ List.suffix_rfl
  intro state pos dirty _ before
  let taken : TickState :=
    { state with store := { state.store with dirty := dirty } }
  exact before.trans (taken.messages_suffix_sendColumn pos)

theorem messages_suffix_relightColumn
    (state : TickState)
    (pos : ColumnPos) :
    state.messages <:+ (state.relightColumn pos).messages := by
  cases converted : state.store.converted[pos]? with
  | none =>
      have unmoved := relightColumn_of_not_converted converted
      exact unmoved.symm ▸ List.suffix_rfl
  | some palettes =>
      rcases relightColumn_of_converted converted with
        ⟨-, -, silent⟩ | ⟨-, told⟩
      · exact silent.symm ▸ List.suffix_rfl
      · rw [told]
        exact List.suffix_cons _ _

theorem messages_suffix_relightDue
    (budget : Nat)
    (state : TickState) :
    state.messages <:+ (state.relightDue budget).messages := by
  apply relightDue_induction (state.messages <:+ ·.messages) _ List.suffix_rfl
  intro state pos relight _ before
  let taken : TickState :=
    { state with store := { state.store with relight := relight } }
  exact before.trans (taken.messages_suffix_relightColumn pos)

/-! ## Due columns -/

/--
A due column that the window shows is sent, or it still waits for its turn.
-/
theorem told_or_due_sendDue
    {state : TickState}
    {pos : ColumnPos}
    {column : Column}
    (due : state.store.dirty.contains pos = true)
    (shown : state.store.column? pos = some column)
    (budget : Nat) :
    (∃ light, Message.column (state.target column) light ∈
      (state.sendDue budget).messages) ∨
      (state.sendDue budget).store.dirty.contains pos = true := by
  induction budget generalizing state with
  | zero => exact Or.inr due
  | succ budget ih =>
      rw [sendDue]
      split
      · exact Or.inr due
      · next first rest taken =>
          let next : TickState :=
            { state with store := { state.store with dirty := rest } }
          have kept : next.store.SameView (next.sendColumn first).store :=
            next.sameView_sendColumn first
          by_cases same : first = pos
          · -- It is this column's turn: its message is put out and stays.
            subst same
            obtain ⟨-, told⟩ := @sendColumn_of_loaded next first column shown
            have later :=
              messages_suffix_sendDue budget (next.sendColumn first)
            rw [told] at later
            exact Or.inl ⟨_, later.mem List.mem_cons_self⟩
          · have waits :
                (next.sendColumn first).store.dirty.contains pos = true := by
              rw [dirty_sendColumn]
              exact ((ColumnQueue.pop?_eq_some taken).2 pos).2
                ⟨Ne.symm same, due⟩
            have visible := (kept.column?_eq pos).trans shown
            have form : (next.sendColumn first).target column =
                state.target column :=
              kept.convert_eq column
            rw [← form]
            exact ih waits visible

end TickState

namespace Store

/--
What a tick does after the due columns were sent changes their light and the
wishes only.
-/
theorem exists_store_tick
    (store : Store)
    (cache : LightCache)
    (spawned : Bool) :
    let sent := TickState.sendDue store.settings.scheduler.columnsPerTick
      ⟨store, cache, [], [], ⟨0, 0, 0, 0⟩⟩
    ∃ light relight wanted inFlight, (store.tick cache spawned).1.store =
      { sent.store.withRelit light relight with
        wanted := wanted, inFlight := inFlight } := by
  intro sent
  obtain ⟨light, relight, done, -⟩ :=
    sent.exists_withRelit_relightDue
      store.settings.scheduler.lightUpdatesPerTick
  cases spawned with
  | false => exact ⟨light, relight, _, _, done⟩
  | true =>
      have flushed :
          (store.tick cache true).1.store =
            (sent.store.withRelit light relight).flush.1 :=
        congrArg (fun lit => lit.flush.1) done
      exact ⟨light, relight, _, _, flushed⟩

/-- After the due columns were sent, a tick only adds messages. -/
theorem messages_prefix_tick
    (store : Store)
    (cache : LightCache)
    (spawned : Bool) :
    let sent := TickState.sendDue store.settings.scheduler.columnsPerTick
      ⟨store, cache, [], [], ⟨0, 0, 0, 0⟩⟩
    sent.messages.reverse <+: (store.tick cache spawned).1.messages := by
  intro sent
  have relit :=
    sent.messages_suffix_relightDue
      store.settings.scheduler.lightUpdatesPerTick
  cases spawned with
  | false => exact List.reverse_prefix.2 relit
  | true => exact List.reverse_prefix.2 (relit.trans (List.suffix_append _ _))

/--
A loaded column that is due before a tick is sent in it, as it is then, or is
due after it, or the window does not show it.
-/
theorem told_or_due_or_hidden
    {settings : Settings}
    {converter : Converter}
    {operations : List StoreOperation}
    {pos : ColumnPos}
    {column : Column}
    (loaded : ((create settings converter).run operations).columns[pos]? =
      some column)
    (due : ((create settings converter).run operations).isDirty pos = true)
    (cache : LightCache)
    (spawned : Bool) :
    let store := (create settings converter).run operations
    let outcome := (store.tick cache spawned).1
    (∃ target light, .column target light ∈ outcome.messages ∧
      target.pos = pos ∧
        target = store.converter.convert column store.minY) ∨
      outcome.store.isDirty pos = true ∨ store.view.loads pos = false := by
  intro store outcome
  cases visible : store.view.loads pos with
  | false => exact Or.inr (Or.inr rfl)
  | true =>
      have shown : store.column? pos = some column :=
        (if_pos visible).trans loaded
      have here : column.pos = pos :=
        ((consistent_create settings converter).run operations).pos_eq pos
          column loaded
      obtain ⟨light, relight, wanted, inFlight, after⟩ :=
        store.exists_store_tick cache spawned
      have told := store.messages_prefix_tick cache spawned
      have cases :=
        @TickState.told_or_due_sendDue ⟨store, cache, [], [], ⟨0, 0, 0, 0⟩⟩
          pos column due shown store.settings.scheduler.columnsPerTick
      rcases cases with ⟨light, sent⟩ | waits
      · exact Or.inl ⟨_, light, told.mem (List.mem_reverse.2 sent), here, rfl⟩
      · refine Or.inr (Or.inl ?_)
        rw [isDirty, show outcome.store = _ from after]
        exact waits

/-- Tables that know air only. -/
def bareConverter : Converter := ⟨.create air air, .create air air⟩

/-- A store in which two columns are due. -/
def dueStore : Store :=
  (create .standard bareConverter).run
    [.createColumn ⟨0, 0⟩ 0, .createColumn ⟨1, 0⟩ 0, .markDirty ⟨1, 0⟩,
      .markDirty ⟨0, 0⟩]

theorem told_or_due_or_hidden_origin :
    dueStore.columns[(⟨0, 0⟩ : ColumnPos)]? = some (.create ⟨0, 0⟩ 24 0) ∧
      dueStore.isDirty ⟨0, 0⟩ = true ∧
      let outcome := (dueStore.tick (.create 0 none) false).1
      (∃ target light, .column target light ∈ outcome.messages ∧
        target.pos = ⟨0, 0⟩ ∧
          target = bareConverter.convert (.create ⟨0, 0⟩ 24 0)
            dueStore.minY) ∨
        outcome.store.isDirty ⟨0, 0⟩ = true ∨
          dueStore.view.loads ⟨0, 0⟩ = false :=
  ⟨rfl, by decide,
    told_or_due_or_hidden rfl (by decide) (.create 0 none) false⟩

/-- A store that keeps a due column from which the player went away. -/
def departedStore : Store :=
  (create .standard bareConverter).run
    [.setPlayer ⟨12, 0⟩, .createColumn ⟨16, 0⟩ 0, .markDirty ⟨16, 0⟩,
      .setPlayer ⟨0, 0⟩]

/--
A column that is loaded and due may be passed over: it is neither sent nor due
any more.
-/
theorem exists_due_passed_over :
    (∃ column, departedStore.columns[(⟨16, 0⟩ : ColumnPos)]? = some column) ∧
      departedStore.isDirty ⟨16, 0⟩ = true ∧
      let outcome := (departedStore.tick (.create 0 none) false).1
      (∀ target light, .column target light ∉ outcome.messages) ∧
        outcome.store.isDirty ⟨16, 0⟩ = false := by
  have silent : (departedStore.tick (.create 0 none) false).1.messages = [] :=
    rfl
  refine ⟨⟨_, rfl⟩, by decide, ?_, by decide⟩
  intro target light
  rw [silent]
  exact List.not_mem_nil

end Store

end VoxelRelay
