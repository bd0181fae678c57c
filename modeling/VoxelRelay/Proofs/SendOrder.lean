import VoxelRelay.Proofs.CubicColumns
import VoxelRelay.Proofs.GhostLight

/-!
# The order in which columns are sent

Columns may be made due in any order, with ticks in between as they come.  What
a store has converted in the end does not depend on it, only on which columns
were made due; and so, once nothing is due any more and the stored light is up
to date, no light depends on it either.

That nothing is due any more is not enough by itself.  A column that is lit
anew makes no other column due, so light that comes late into one column is
missing in those beside it that were sent before.
-/

namespace VoxelRelay

/-- An operation that makes a column due to be sent, or a tick. -/
def StoreOperation.IsSend : StoreOperation → Prop
  | .markDirty _ => True
  | .tick .. => True
  | _ => False

theorem StoreOperation.IsSend.wellFormed
    {operation : StoreOperation}
    (send : operation.IsSend) :
    operation.WellFormed := by
  cases operation with
  | mergeSection pos content entities => exact absurd send id
  | _ => trivial

namespace TickState

theorem converted_sendColumn_self
    {state : TickState}
    {pos : ColumnPos}
    {column : Column}
    (loaded : state.store.column? pos = some column) :
    (state.sendColumn pos).store.converted[pos]? =
      some (state.target column).palettes := by
  rw [(sendColumn_of_loaded loaded).1, Store.relightNeighbors_eq]
  exact Std.TreeMap.getElem?_insert_self

theorem converted_sendColumn_of_ne
    (state : TickState)
    {pos other : ColumnPos}
    (apart : other ≠ pos) :
    (state.sendColumn pos).store.converted[other]? =
      state.store.converted[other]? := by
  cases loaded : state.store.column? pos with
  | none => rw [sendColumn_of_not_loaded loaded]
  | some column =>
      rw [(sendColumn_of_loaded loaded).1, Store.relightNeighbors_eq]
      refine Std.TreeMap.getElem?_insert.trans (if_neg ?_)
      exact fun same => apart (Std.LawfulEqCmp.eq_of_compare same).symm

end TickState

namespace Store

/-- The blocks in the form in which a store would send a column. -/
def palettesOf (store : Store) (column : Column) : Array Palette :=
  (store.converter.convert column store.minY).palettes

/-! ## Sending -/

/--
A store on the way from another on which columns were made due and sent, and
nothing else happened.
-/
structure Sending
    (start : Store)
    (due : ColumnPos → Prop)
    (store : Store) : Prop where
  sameView : start.SameView store
  due_of_dirty : ∀ pos, store.dirty.contains pos = true → due pos
  converted_of_due : ∀ pos column, due pos →
    ¬ store.dirty.contains pos = true →
    start.column? pos = some column →
    store.converted[pos]? = some (start.palettesOf column)
  converted_of_still : ∀ pos, ¬ due pos ∨ start.column? pos = none →
    store.converted[pos]? = start.converted[pos]?

variable {start store : Store} {due : ColumnPos → Prop}

theorem sending_self (start : Store) :
    start.Sending (start.dirty.contains · = true) start where
  sameView := .refl start
  due_of_dirty := fun _ waits => waits
  converted_of_due := fun _ _ waits still => absurd waits still
  converted_of_still := fun _ _ => rfl

theorem Sending.of_iff
    {other : ColumnPos → Prop}
    (sending : start.Sending due store)
    (same : ∀ pos, due pos ↔ other pos) :
    start.Sending other store := by
  obtain rfl : due = other := funext fun pos => propext (same pos)
  exact sending

theorem Sending.markDirty
    (sending : start.Sending due store)
    (pos : ColumnPos) :
    start.Sending (fun other => due other ∨ other = pos)
      (store.markDirty pos) where
  sameView := sending.sameView.trans ⟨rfl, rfl, rfl, rfl⟩
  due_of_dirty := by
    intro other waits
    rcases (ColumnQueue.contains_push_iff _ _ _).1 waits with rfl | before
    · exact Or.inr rfl
    · exact Or.inl (sending.due_of_dirty other before)
  converted_of_due := by
    intro other column isDue still shown
    have still := mt (ColumnQueue.contains_push_iff _ _ _).2 still
    obtain ⟨apart, idle⟩ := not_or.1 still
    exact sending.converted_of_due other column (isDue.resolve_right apart)
      idle shown
  converted_of_still := by
    intro other still
    apply sending.converted_of_still other
    exact still.imp_left fun isDue before => isDue (Or.inl before)

/--
What is derived from a store may change in its light and its queues of other
kinds.
-/
theorem Sending.congr
    {other : Store}
    (sending : start.Sending due store)
    (view : store.SameView other)
    (dirty : other.dirty = store.dirty)
    (converted : other.converted = store.converted) :
    start.Sending due other where
  sameView := sending.sameView.trans view
  due_of_dirty := by
    rw [dirty]
    exact sending.due_of_dirty
  converted_of_due := by
    rw [dirty, converted]
    exact sending.converted_of_due
  converted_of_still := by
    rw [converted]
    exact sending.converted_of_still

/-- The column whose turn it is gets its blocks, if it is shown. -/
theorem Sending.sendColumn
    {state : TickState}
    (sending : start.Sending due state.store)
    {pos : ColumnPos}
    {rest : ColumnQueue}
    (taken : state.store.dirty.pop? = some (pos, rest)) :
    let next : TickState :=
      { state with store := { state.store with dirty := rest } }
    start.Sending due (next.sendColumn pos).store := by
  intro next
  obtain ⟨waits, remaining⟩ := ColumnQueue.pop?_eq_some taken
  have kept : start.SameView next.store :=
    sending.sameView.trans ⟨rfl, rfl, rfl, rfl⟩
  have dirty : (next.sendColumn pos).store.dirty = rest :=
    next.dirty_sendColumn pos
  refine ⟨kept.trans (next.sameView_sendColumn pos), ?_, ?_, ?_⟩
  · intro other still
    rw [dirty] at still
    exact sending.due_of_dirty other ((remaining other).1 still).2
  · intro other column isDue still shown
    rw [dirty] at still
    by_cases same : other = pos
    · subst same
      have loaded := (kept.column?_eq other).trans shown
      rw [TickState.converted_sendColumn_self loaded, TickState.target,
        kept.convert_eq column, palettesOf]
    · rw [TickState.converted_sendColumn_of_ne next same]
      refine sending.converted_of_due other column isDue
        (fun before => ?_) shown
      exact still ((remaining other).2 ⟨same, before⟩)
  · intro other still
    by_cases same : other = pos
    · subst same
      -- The column was due, so it is not shown, and nothing happened to it.
      have hidden :=
        still.resolve_left fun notDue =>
          notDue (sending.due_of_dirty other waits)
      have absent := (kept.column?_eq other).trans hidden
      rw [TickState.sendColumn_of_not_loaded absent]
      exact sending.converted_of_still other still
    · rw [TickState.converted_sendColumn_of_ne next same]
      exact sending.converted_of_still other still

theorem Sending.sendDue
    (budget : Nat)
    {state : TickState}
    (sending : start.Sending due state.store) :
    start.Sending due (state.sendDue budget).store :=
  TickState.sendDue_induction (start.Sending due ·.store)
    (fun _ _ _ taken sending => sending.sendColumn taken) sending budget

theorem Sending.tick
    (sending : start.Sending due store)
    (cache : LightCache)
    (spawned : Bool) :
    start.Sending due (store.tick cache spawned).1.store := by
  let first : TickState := ⟨store, cache, [], [], ⟨0, 0, 0, 0⟩⟩
  have sent : start.Sending due
      (first.sendDue store.settings.scheduler.columnsPerTick).store :=
    Sending.sendDue _ sending
  obtain ⟨light, relight, wanted, inFlight, after⟩ :=
    store.exists_store_tick cache spawned
  rw [after]
  exact sent.congr ⟨rfl, rfl, rfl, rfl⟩ rfl rfl

/-- During a run, those columns are due that were due or are made so. -/
theorem Sending.run
    {operations : List StoreOperation}
    (sends : ∀ operation ∈ operations, operation.IsSend)
    (sending : start.Sending due store) :
    start.Sending (fun pos => due pos ∨ .markDirty pos ∈ operations)
      (store.run operations) := by
  induction operations generalizing store due with
  | nil => exact sending.of_iff fun pos => by simp
  | cons operation rest ih =>
      have later :=
        fun operation member =>
          sends operation (List.mem_cons_of_mem _ member)
      cases operation with
      | markDirty pos =>
          exact (ih later (sending.markDirty pos)).of_iff fun other =>
            by simp [or_assoc]
      | tick cache spawned =>
          exact (ih later (sending.tick cache spawned)).of_iff fun other =>
            by simp
      | _ => exact absurd (sends _ List.mem_cons_self) id

/--
Where nothing is due any more, the blocks depend only on which columns were
due.
-/
theorem Sending.converted_eq
    {first second : Store}
    (firstSending : start.Sending due first)
    (secondSending : start.Sending due second)
    (firstIdle : ∀ pos, ¬ first.dirty.contains pos = true)
    (secondIdle : ∀ pos, ¬ second.dirty.contains pos = true)
    (pos : ColumnPos) :
    first.converted[pos]? = second.converted[pos]? := by
  by_cases still : ¬ due pos ∨ start.column? pos = none
  · rw [firstSending.converted_of_still pos still,
      secondSending.converted_of_still pos still]
  · obtain ⟨isDue, shown⟩ := not_or.1 still
    obtain ⟨column, loaded⟩ := Option.ne_none_iff_exists'.1 shown
    rw [firstSending.converted_of_due pos column (not_not.1 isDue)
      (firstIdle pos) loaded,
      secondSending.converted_of_due pos column (not_not.1 isDue)
        (secondIdle pos) loaded]

/--
Nothing is due to be sent, and lighting any column anew would change nothing.
-/
structure AtRest (store : Store) : Prop where
  idle : ∀ pos, ¬ store.dirty.contains pos = true
  upToDate : store.UpToDate

/-! ## Columns around a corner -/

/-- The column south of the eastern one. -/
def corner : ColumnPos := ⟨1, 1⟩

/-- Three columns are created, and a lamp is put into the western one. -/
def cornerRun : List StoreOperation :=
  [.createColumn west 1, .createColumn east 1, .changeBlock ⟨15, 8, 8⟩ 0 2,
    .createColumn corner 1]

def cornerStore : Store := (create lampSettings lampConverter).run cornerRun

/-- A store of these columns in which none is due to be lit anew. -/
structure Resting
    (store : Store)
    (sent : List ColumnPos) : Prop
    extends Standing store sent where
  lined : store.relight.Lined
  unwaited : ∀ pos, ¬ store.relight.contains pos = true

theorem resting_lampStore : Resting lampStore [] where
  toStanding := standing_lampStore
  lined := by
    rw [lampStore_eq, twoColumns_eq]
    exact (ColumnQueue.lined_empty.remove west).remove east
  unwaited := fun _ waits =>
    absurd (standing_lampStore.mem_of_relight waits) List.not_mem_nil

/-- A column that was not sent may be created anew. -/
theorem Resting.createColumn
    {store : Store}
    {sent : List ColumnPos}
    (resting : Resting store sent)
    {pos : ColumnPos}
    (unsent : pos ∉ sent)
    (inside : ViewWindow.renders ⟨⟨0, 0⟩, 8, none⟩ pos = true) :
    let after := (store.createColumn pos 1).store
    Resting after sent ∧
      after.columns = store.columns.insert pos (.create pos 1 1) ∧
      ∀ other, other ≠ pos → after.light[other]? = store.light[other]? ∧
        after.converted[other]? = store.converted[other]? := by
  intro after
  have rendered : store.view.renders pos = true := by
    rw [resting.view_eq]
    exact inside
  have one : store.sectionCount = 1 := by
    rw [sectionCount, resting.settings_eq]
    rfl
  have created : after = { store.forgetDerived pos with
      columns := store.columns.insert pos (.create pos 1 1) } := by
    rw [show after = _ from createColumn_of_renders rendered 1, one]
  refine ⟨?_, by rw [created], fun other apart => ?_⟩
  · constructor
    · constructor
      · exact resting.consistent.createColumn pos 1
      · rw [created]; exact resting.settings_eq
      · rw [created]; exact resting.converter_eq
      · rw [created]; exact resting.view_eq
      · intro other waits
        rw [created] at waits
        exact resting.idle other
          ((ColumnQueue.contains_remove_iff _ _ _).1 waits).2
      · intro other
        rw [created, ← resting.mem_sent_iff]
        refine Std.TreeSet.mem_erase.trans (and_iff_right_of_imp ?_)
        intro member same
        rw [Std.LawfulEqCmp.eq_of_compare same] at unsent
        exact unsent ((resting.mem_sent_iff other).1 member)
    · rw [created]
      exact resting.lined.remove pos
    · intro other waits
      rw [created] at waits
      exact resting.unwaited other
        ((ColumnQueue.contains_remove_iff _ _ _).1 waits).2
  · have different : ¬ compare pos other = .eq := fun same =>
      apart (Std.LawfulEqCmp.eq_of_compare same).symm
    rw [created]
    exact ⟨Std.TreeMap.getElem?_erase.trans (if_neg different),
      Std.TreeMap.getElem?_erase.trans (if_neg different)⟩

theorem resting_cornerStore : Resting cornerStore [] :=
  (resting_lampStore.createColumn List.not_mem_nil rfl).1

theorem columns_cornerStore :
    cornerStore.columns[west]? = some lampColumn ∧
      cornerStore.columns[east]? = some (.create east 1 1) ∧
      cornerStore.columns[corner]? = some (.create corner 1 1) := by
  obtain ⟨atWest, atEast⟩ := columns_lampStore
  have fromWest : ¬ compare corner west = .eq := by decide
  have fromEast : ¬ compare corner east = .eq := by decide
  have columns : cornerStore.columns =
      lampStore.columns.insert corner (.create corner 1 1) :=
    (resting_lampStore.createColumn List.not_mem_nil rfl).2.1
  rw [columns]
  refine ⟨?_, ?_, Std.TreeMap.getElem?_insert_self⟩
  · rw [Std.TreeMap.getElem?_insert, if_neg fromWest, atWest]
  · rw [Std.TreeMap.getElem?_insert, if_neg fromEast, atEast]

theorem loaded_cornerStore
    {pos : ColumnPos}
    (member : pos ∈ [west, east, corner]) :
    ∃ column, cornerStore.column? pos = some column := by
  obtain ⟨atWest, atEast, atCorner⟩ := columns_cornerStore
  rcases List.mem_cons.1 member with rfl | later
  · exact ⟨_, (resting_cornerStore.column?_eq rfl).trans atWest⟩
  · rcases List.mem_pair.1 later with rfl | rfl
    · exact ⟨_, (resting_cornerStore.column?_eq rfl).trans atEast⟩
    · exact ⟨_, (resting_cornerStore.column?_eq rfl).trans atCorner⟩

/-- No column was sent, and none is due. -/
theorem untouched_cornerStore (pos : ColumnPos) :
    cornerStore.isSent pos = false ∧ cornerStore.isDirty pos = false := by
  have unsent : pos ∉ cornerStore.sent := fun member =>
    absurd ((resting_cornerStore.mem_sent_iff pos).1 member) List.not_mem_nil
  constructor
  · exact Bool.eq_false_iff.2 fun sent =>
      unsent (Std.TreeSet.mem_iff_contains.2 sent)
  · exact Bool.eq_false_iff.2 (resting_cornerStore.idle pos)

/--
A column that is sent alone gets its light, and only its neighbors may be lit
anew.
-/
theorem Resting.send
    {store : Store}
    {sent : List ColumnPos}
    (resting : Resting store sent)
    {pos : ColumnPos}
    {column : Column}
    (inside : ViewWindow.loads ⟨⟨0, 0⟩, 8, none⟩ pos = true)
    (loaded : store.columns[pos]? = some column)
    (apart : pos ∉ pos.neighbors) :
    let palettes := (lampConverter.convert column 0).palettes
    let after := store.run (sending pos)
    Resting after (pos :: sent) ∧ after.columns = store.columns ∧
      after.converted = store.converted.insert pos palettes ∧
      ∀ other, other ∉ pos.neighbors →
        after.light[other]? =
          (store.light.insert pos
            (store.freshLight pos palettes))[other]? := by
  intro palettes after
  obtain ⟨standing, columns, converted, -, -⟩ :=
    resting.toStanding.send inside loaded (resting.unwaited pos) apart
  obtain ⟨rest, taken, alone, known, settings, shown⟩ :=
    resting.toStanding.exists_turn inside loaded
  have budget :
      (store.markDirty pos).settings.scheduler.columnsPerTick ≠ 0 := by
    rw [settings]
    decide
  have enough : pos.neighbors.length ≤
      (store.markDirty pos).settings.scheduler.lightUpdatesPerTick := by
    rw [settings]
    show 4 ≤ 8
    decide
  obtain ⟨lined, unwaited⟩ :=
    @idle_relight_tick (store.markDirty pos) pos column rest taken alone
      known budget 0 resting.lined resting.unwaited enough
  obtain ⟨lights, relight, done, kept, -⟩ :=
    @exists_tick_of_pop? (store.markDirty pos) pos column rest taken alone
      known budget 0
  rw [shown] at done kept
  refine ⟨⟨standing, lined, unwaited⟩, columns, converted, fun other far =>
    ?_⟩
  have stored : after.light = lights := congrArg Store.light done
  rw [stored]
  exact kept other far (resting.unwaited other)

/--
A column that was sent alone is lit by the light that its neighbors had
before.
-/
theorem Resting.light_send
    {store : Store}
    {sent : List ColumnPos}
    (resting : Resting store sent)
    {pos : ColumnPos}
    {column : Column}
    (inside : ViewWindow.loads ⟨⟨0, 0⟩, 8, none⟩ pos = true)
    (loaded : store.columns[pos]? = some column)
    (apart : pos ∉ pos.neighbors) :
    (store.run (sending pos)).light[pos]? =
      some
        (store.freshLight pos (lampConverter.convert column 0).palettes) := by
  obtain ⟨-, -, -, light⟩ := resting.send inside loaded apart
  rw [light pos apart]
  exact Std.TreeMap.getElem?_insert_self

/--
The only neighbor that was sent is lit anew by the light of the column that is
sent.
-/
theorem Resting.relit_send
    {store : Store}
    {sent : List ColumnPos}
    (resting : Resting store sent)
    {pos other : ColumnPos}
    {column : Column}
    (inside : ViewWindow.loads ⟨⟨0, 0⟩, 8, none⟩ pos = true)
    (loaded : store.columns[pos]? = some column)
    (apart : pos ∉ pos.neighbors)
    (near : other ∈ pos.neighbors)
    (alone : ∀ place ∈ pos.neighbors, place ∈ sent → place = other)
    {palettes blocks : Array Palette}
    {shining : ColumnLight}
    (converted : store.converted[other]? = some palettes)
    (blocks_eq : (lampConverter.convert column 0).palettes = blocks)
    (shining_eq : store.freshLight pos blocks = shining) :
    (store.run (sending pos)).light[other]? =
      some
        (((store.withSent pos blocks shining).lightInput other palettes).light
          lampTable.light) := by
  obtain ⟨rest, taken, only, known, settings, shown⟩ :=
    resting.toStanding.exists_turn inside loaded
  rw [blocks_eq] at shown
  have shines : (store.markDirty pos).freshLight pos blocks =
      store.freshLight pos blocks := rfl
  obtain ⟨sent, sends⟩ : ∃ sent, sent =
      ({ (store.markDirty pos).withSent pos blocks
          ((store.markDirty pos).freshLight pos blocks) with
        dirty := rest }).relightNeighbors pos := ⟨_, rfl⟩
  have different : ¬ compare pos other = .eq := by
    intro same
    obtain rfl : pos = other := Std.LawfulEqCmp.eq_of_compare same
    exact apart near
  have due : ∀ place, sent.relight.contains place = true ↔ place = other := by
    intro place
    rw [sends, contains_relight_relightNeighbors_iff]
    constructor
    · rintro (before | ⟨member, counted, -⟩)
      · exact absurd before (resting.unwaited place)
      · rcases Std.TreeSet.mem_insert.1 counted with same | earlier
        · obtain rfl : pos = place := Std.LawfulEqCmp.eq_of_compare same
          exact absurd member apart
        · exact alone place member ((resting.mem_sent_iff place).1 earlier)
    · intro here
      rw [here]
      have counted := resting.consistent.sent_of_converted converted
      have known := (resting.consistent.converted_iff other).2 counted
      refine Or.inr ⟨near, ?_, ?_⟩
      · exact Std.TreeSet.mem_insert.2 (Or.inr counted)
      · exact Std.TreeMap.mem_insert.2 (Or.inr known)
  have lined : sent.relight.Lined := by
    rw [sends]
    apply lined_relightNeighbors
    exact resting.lined
  obtain ⟨later, next, still⟩ := lined.exists_pop?_of_alone due
  have stored : sent.converted[other]? = some palettes := by
    rw [sends, relightNeighbors_eq]
    exact Std.TreeMap.getElem?_insert.trans
      ((if_neg different).trans converted)
  have budget :
      (store.markDirty pos).settings.scheduler.columnsPerTick ≠ 0 := by
    rw [settings]
    decide
  have lights :
      (store.markDirty pos).settings.scheduler.lightUpdatesPerTick ≠ 0 := by
    rw [settings]
    decide
  have relit := light_tick_of_pop? taken only known budget lights shown sends
    next still stored
  have input_eq : sent.lightInput other palettes =
      (store.withSent pos blocks shining).lightInput other palettes := by
    rw [sends, relightNeighbors_eq, shines, shining_eq]
    rfl
  have table_eq : (store.markDirty pos).table = lampTable :=
    congrArg Converter.table resting.converter_eq
  rw [← input_eq, ← table_eq]
  exact relit

/-! ### Columns side by side -/

/-- The light of the western column by itself. -/
def westLight : ColumnLight :=
  (LightInput.isolated westBlocks).light lampTable.light

/-- What a column of air takes its light from if it is lit from the west. -/
def eastInput : LightInput where
  sections := #[.blocks air]
  neighborSections := .ofFn fun _ => none
  neighborLight := ⟨some westLight, none, none, none⟩

def eastLight : ColumnLight := eastInput.light lampTable.light

theorem size_westBlocks : westBlocks.size = 1 := by
  rw [westBlocks_eq]
  rfl

/--
Next to each other, cells with the light of the lamp differ by a level at
most.
-/
theorem levelAt_westLight_le
    {voxel other : Voxel}
    (inside : voxel.InRange 1)
    (otherInside : other.InRange 1)
    (adjacent : voxel.Adjacent other) :
    westLight.block.levelAt other - 1 ≤ westLight.block.levelAt voxel := by
  rw [← size_westBlocks] at inside otherInside
  have least := LightInput.blockLight_least lampTable.light
    (.isolated westBlocks) cubes_westBlocks
  have spread :=
    least.solution.spread_le voxel other inside otherInside adjacent
  rwa [cost_lampTable] at spread

/--
Nothing that the lamp lights in the east is as bright as the cell west of the
border.
-/
theorem levelAt_eastInput_le
    {voxel : Voxel}
    (inside : voxel.InRange 1) :
    (eastInput.blockLight lampTable.light).levelAt voxel ≤
      westLight.block.levelAt { voxel with x := 15 } - 1 := by
  have dull : Dull lampTable.light eastInput.sections := dull_air
  refine dull.blockLight_least.le_solution
    (fun cell => westLight.block.levelAt { cell with x := 15 } - 1) ⟨?_, ?_⟩
    voxel inside
  · intro cell cellInside
    refine startLevel_le_iff.2 ⟨?_, fun direction => ?_⟩
    · rw [dull.glow_eq cellInside]
      exact Nat.zero_le _
    · rw [cost_lampTable, borderLevel]
      split
      · cases direction with
        | west => exact le_rfl
        | _ => exact Nat.zero_le _
      · exact Nat.zero_le _
  · rintro cell other ⟨slotLt, -, yLt, zLt⟩
      ⟨otherSlotLt, -, otherYLt, otherZLt⟩
      adjacent
    have border : Voxel.InRange 1 { cell with x := 15 } :=
      ⟨slotLt, Nat.lt_succ_self 15, yLt, zLt⟩
    have otherBorder : Voxel.InRange 1 { other with x := 15 } :=
      ⟨otherSlotLt, Nat.lt_succ_self 15, otherYLt, otherZLt⟩
    rw [cost_lampTable]
    apply Nat.sub_le_sub_right
    -- Seen from the border, the cells are the same or next to each other.
    rcases adjacent with ⟨heights, zs, -⟩ | ⟨-, upright⟩ | ⟨level, -, across⟩
    · have same : ({ other with x := 15 } : Voxel) =
          { cell with x := 15 } := by
        unfold Voxel.height at heights
        rw [Voxel.eq_iff]
        refine ⟨?_, rfl, ?_, zs.symm⟩
        · show other.slot = cell.slot
          omega
        · show other.y = cell.y
          omega
      rw [same]
      exact Nat.sub_le _ _
    · exact levelAt_westLight_le border otherBorder
        (Or.inr (Or.inl ⟨rfl, upright⟩))
    · exact levelAt_westLight_le border otherBorder
        (Or.inr (Or.inr ⟨level, rfl, across⟩))

section

variable
    {store : Store}
    (near : ∀ (pos : ColumnPos) (light : ColumnLight),
      store.light[pos]? = some light → pos ∈ [west, east])
include near

/-- The lamp outshines what comes back from the east. -/
theorem light_westBlocks
    (faint : ∀ light : ColumnLight, store.light[east]? = some light →
      ∀ voxel, voxel.InRange 1 →
        light.block.levelAt voxel ≤
          westLight.block.levelAt { voxel with x := 15 }) :
    (store.lightInput west westBlocks).light lampTable.light = westLight := by
  refine LightInput.Sated.light_eq ⟨?_, ?_⟩ cubes_westBlocks
  · intro voxel inRange direction
    apply (Nat.sub_le _ _).trans
    refine le_trans (borderLevel_le_of_forall ?_)
      (LightInput.maxLevel_le_levelAt_skyLight lampTable.light _
        filter_lampTable inRange)
    exact fun _ light _ => Nat.le_of_lt_succ (light.level_lt _ _)
  · intro voxel inRange direction
    apply (Nat.sub_le _ _).trans
    apply borderLevel_le_of_forall
    intro onFace data known
    rw [LightInput.neighborBlock, Sides.map, Sides.get_ofFn,
      Option.map_eq_some_iff, lightInput, Sides.get_ofFn] at known
    obtain ⟨light, there, rfl⟩ := known
    have beside := near _ light there
    have inside : voxel.InRange 1 := size_westBlocks ▸ inRange
    cases direction with
    | east =>
        have bound := faint light there { voxel with x := 0 }
          ⟨inside.1, Nat.zero_lt_succ 15, inside.2.2⟩
        have here : ({ voxel with x := 15 } : Voxel) = voxel :=
          Voxel.eq_iff.2 ⟨rfl, onFace.symm, rfl, rfl⟩
        exact here ▸ bound
    | _ => exact absurd beside (by decide)

theorem light_eastBlocks (lit : store.light[west]? = some westLight) :
    (store.lightInput east #[.blocks air]).light lampTable.light =
      eastLight := by
  have unlit (direction : Direction)
    (far : east.neighbor direction ∉ [west, east]) :
      store.light[east.neighbor direction]? = none :=
    Option.eq_none_iff_forall_not_mem.2 fun light known =>
      far (near _ light known)
  have beside : (store.lightInput east #[.blocks air]).neighborLight =
      eastInput.neighborLight := by
    dsimp only [lightInput, Sides.ofFn, eastInput]
    rw [unlit .east (by decide), unlit .north (by decide),
      unlit .south (by decide), show east.neighbor .west = west from rfl, lit]
  have same : ∀ input : LightInput, input.sections = #[.blocks air] →
      input.neighborLight = eastInput.neighborLight →
      input.light lampTable.light = eastInput.light lampTable.light := by
    rintro ⟨_, _, _⟩ rfl rfl
    rfl
  exact same _ rfl beside

end

namespace Standing

variable
    {store : Store}
    {sent : List ColumnPos}
    (standing : Standing store sent)
    (only : sent ⊆ [west, east])
include standing only

theorem near_of_light
    (pos : ColumnPos)
    (light : ColumnLight)
    (known : store.light[pos]? = some light) :
    pos ∈ [west, east] :=
  only (standing.mem_of_light known)

theorem near_of_withSent
    {pos : ColumnPos}
    (member : pos ∈ [west, east])
    (blocks : Array Palette)
    (shining : ColumnLight)
    (other : ColumnPos)
    (light : ColumnLight)
    (known : (store.withSent pos blocks shining).light[other]? = some light) :
    other ∈ [west, east] := by
  rw [withSent, Std.TreeMap.getElem?_insert] at known
  split at known
  · next same => exact Std.LawfulEqCmp.eq_of_compare same ▸ member
  · exact standing.near_of_light only other light known

theorem freshLight_west
    (faint : ∀ light : ColumnLight, store.light[east]? = some light →
      ∀ voxel, voxel.InRange 1 →
        light.block.levelAt voxel ≤
          westLight.block.levelAt { voxel with x := 15 }) :
    store.freshLight west westBlocks = westLight := by
  rw [freshLight, table, standing.converter_eq]
  exact light_westBlocks (standing.near_of_light only) faint

theorem freshLight_east (lit : store.light[west]? = some westLight) :
    store.freshLight east #[.blocks air] = eastLight := by
  rw [freshLight, table, standing.converter_eq]
  exact light_eastBlocks (standing.near_of_light only) lit

end Standing

/-- The light that comes back from the east is fainter than the lamp. -/
theorem faint_eastLight
    {light : ColumnLight}
    (known : some eastLight = some light)
    (voxel : Voxel)
    (inside : voxel.InRange 1) :
    light.block.levelAt voxel ≤
      westLight.block.levelAt { voxel with x := 15 } := by
  rw [← Option.some.inj known, eastLight, LightInput.block_light]
  exact (levelAt_eastInput_le inside).trans (Nat.sub_le _ _)

/-- The two columns, each with the light that it has beside the other. -/
structure SideBySide
    (store : Store)
    (sent : List ColumnPos) :
    Prop
    extends Resting store sent where
  only : sent ⊆ [west, east]
  westBlocks_eq : store.converted[west]? = some westBlocks
  eastBlocks_eq : store.converted[east]? = some #[.blocks air]
  westLight_eq : store.light[west]? = some westLight
  eastLight_eq : store.light[east]? = some eastLight

/-- Lighting either column anew would change nothing. -/
theorem SideBySide.atRest
    {store : Store}
    {sent : List ColumnPos}
    (beside : SideBySide store sent) :
    store.AtRest where
  idle := beside.idle
  upToDate := by
    have near := beside.toStanding.near_of_light beside.only
    have table_eq : store.table = lampTable :=
      congrArg Converter.table beside.converter_eq
    intro pos palettes light converted known
    rw [table_eq]
    rcases List.mem_pair.1 (near pos light known) with rfl | rfl
    · obtain rfl :=
        Option.some.inj (beside.westBlocks_eq.symm.trans converted)
      obtain rfl := Option.some.inj (beside.westLight_eq.symm.trans known)
      exact (light_westBlocks near fun light there =>
        faint_eastLight (beside.eastLight_eq.symm.trans there)).symm
    · obtain rfl :=
        Option.some.inj (beside.eastBlocks_eq.symm.trans converted)
      obtain rfl := Option.some.inj (beside.eastLight_eq.symm.trans known)
      exact (light_eastBlocks near beside.westLight_eq).symm

/-- First the column with the lamp is sent, and then the one that it lights. -/
theorem sideBySide_westFirst :
    SideBySide (cornerStore.run (sending west ++ sending east))
      [east, west] := by
  obtain ⟨atWest, atEast, -⟩ := columns_cornerStore
  have apart : ¬ compare east west = .eq := by decide
  -- The western column is lit by itself.
  obtain ⟨first, columns, westConverted, -⟩ :=
    resting_cornerStore.send rfl atWest (by decide)
  have westLit := resting_cornerStore.light_send rfl atWest (by decide)
  have westFresh := resting_cornerStore.toStanding.freshLight_west
    (List.nil_subset _) fun light known => absurd
      (resting_cornerStore.toStanding.mem_of_light known) List.not_mem_nil
  have shown : (lampConverter.convert lampColumn 0).palettes = westBlocks :=
    rfl
  rw [shown] at westConverted westLit
  rw [westFresh] at westLit
  have westKnown : (cornerStore.run (sending west)).converted[west]? =
      some westBlocks := by
    rw [westConverted]
    exact Std.TreeMap.getElem?_insert_self
  -- The eastern one is lit by it, and sends it less than it has.
  rw [← columns] at atEast
  have only : [west] ⊆ [west, east] :=
    List.cons_subset_cons _ (List.nil_subset _)
  obtain ⟨second, -, eastConverted, -⟩ := first.send rfl atEast (by decide)
  have eastLit := first.light_send rfl atEast (by decide)
  have eastFresh := first.toStanding.freshLight_east only westLit
  have relit := first.relit_send rfl atEast (by decide) (by decide)
    (fun place _ member => List.mem_singleton.1 member) westKnown
    (palettes_convert_create east) eastFresh
  rw [palettes_convert_create] at eastConverted eastLit
  rw [eastFresh] at eastLit
  rw [light_westBlocks
    (first.toStanding.near_of_withSent only (by decide) _ _)
    fun light known =>
      faint_eastLight (Std.TreeMap.getElem?_insert_self.symm.trans known)]
      at relit
  rw [run_append]
  refine ⟨second, by decide, ?_, ?_, relit, eastLit⟩
  · rw [eastConverted, Std.TreeMap.getElem?_insert, if_neg apart, westKnown]
  · rw [eastConverted]
    exact Std.TreeMap.getElem?_insert_self

/-- The column with the lamp is sent last, and the one beside it is lit anew. -/
theorem sideBySide_eastFirst :
    SideBySide (cornerStore.run (sending east ++ sending west))
      [west, east] := by
  obtain ⟨atWest, atEast, -⟩ := columns_cornerStore
  have apart : ¬ compare west east = .eq := by decide
  -- The eastern column is dark by itself.
  obtain ⟨first, columns, eastConverted, -⟩ :=
    resting_cornerStore.send rfl atEast (by decide)
  have eastLit := resting_cornerStore.light_send rfl atEast (by decide)
  rw [palettes_convert_create] at eastConverted eastLit
  have dark := @Standing.level_freshLight_eq_zero _ _
    resting_cornerStore.toStanding east fun direction light known =>
      absurd (resting_cornerStore.toStanding.mem_of_light known)
        List.not_mem_nil
  have eastKnown : (cornerStore.run (sending east)).converted[east]? =
      some #[.blocks air] := by
    rw [eastConverted]
    exact Std.TreeMap.getElem?_insert_self
  -- So the western one is lit by itself as well, and then lights the eastern
  -- one.
  rw [← columns] at atWest
  have only : [east] ⊆ [west, east] := List.subset_cons_self _ _
  obtain ⟨second, -, westConverted, -⟩ := first.send rfl atWest (by decide)
  have westLit := first.light_send rfl atWest (by decide)
  have westFresh := first.toStanding.freshLight_west only
    fun light known voxel _ => by
      rw [eastLit] at known
      rw [← Option.some.inj known, LightData.levelAt, dark]
      exact Nat.zero_le _
  have shown : (lampConverter.convert lampColumn 0).palettes = westBlocks :=
    rfl
  have relit := first.relit_send rfl atWest (by decide) (by decide)
    (fun place _ member => List.mem_singleton.1 member) eastKnown
    shown westFresh
  rw [shown] at westConverted westLit
  rw [westFresh] at westLit
  rw [light_eastBlocks
    (first.toStanding.near_of_withSent only (by decide) _ _)
    Std.TreeMap.getElem?_insert_self] at relit
  rw [run_append]
  refine ⟨second, by decide, ?_, ?_, westLit, relit⟩
  · rw [westConverted]
    exact Std.TreeMap.getElem?_insert_self
  · rw [westConverted, Std.TreeMap.getElem?_insert, if_neg apart, eastKnown]

/-! ## The same light in the end -/

/--
However the same columns are made due and sent: once a store is at rest, its
light is the same.
-/
theorem sentLight?_eq_of_same_sends
    {settings : Settings}
    {converter : Converter}
    {before first second : List StoreOperation}
    (delivered : ∀ operation ∈ before, operation.WellFormed)
    (firstSends : ∀ operation ∈ first, operation.IsSend)
    (secondSends : ∀ operation ∈ second, operation.IsSend)
    (same : ∀ pos, .markDirty pos ∈ first ↔ .markDirty pos ∈ second)
    (firstRests : (((create settings converter).run before).run first).AtRest)
    (secondRests : (((create settings converter).run before).run
        second).AtRest)
    (pos : ColumnPos) :
    (((create settings converter).run before).run first).sentLight? pos =
      (((create settings converter).run before).run second).sentLight?
        pos := by
  let start := (create settings converter).run before
  have consistent : start.Consistent :=
    (consistent_create settings converter).run before
  have sound : start.Sound := (sound_create settings converter).run delivered
  have firstSending := (sending_self start).run firstSends
  have secondSending :=
    ((sending_self start).run secondSends).of_iff fun pos =>
      or_congr_right (same pos).symm
  have blocks : (start.run first).SameBlocks (start.run second) := {
    light_eq := by
      rw [table, table, firstSending.sameView.converter_eq,
        secondSending.sameView.converter_eq]
    converted_eq :=
      firstSending.converted_eq secondSending firstRests.idle
        secondRests.idle }
  have firstSettled : (start.run first).Settled := {
    consistent := consistent.run first
    cubic :=
      (sound.run fun operation member =>
        (firstSends operation member).wellFormed).converted
    upToDate := firstRests.upToDate }
  have secondSettled : (start.run second).Settled := {
    consistent := consistent.run second
    cubic :=
      (sound.run fun operation member =>
        (secondSends operation member).wellFormed).converted
    upToDate := secondRests.upToDate }
  exact blocks.getElem?_light_eq firstSettled secondSettled pos

/--
The column with the lamp and the one that it lights may be sent in either
order.
-/
theorem sentLight?_eq_of_same_sends_side_by_side :
    let first := sending west ++ sending east
    let second := sending east ++ sending west
    (∀ operation ∈ cornerRun, operation.WellFormed) ∧
      (∀ operation ∈ first, operation.IsSend) ∧
      (∀ operation ∈ second, operation.IsSend) ∧
      (∀ pos, .markDirty pos ∈ first ↔ .markDirty pos ∈ second) ∧
      (cornerStore.run first).AtRest ∧ (cornerStore.run second).AtRest ∧
      (∃ light, (cornerStore.run first).sentLight? east = some light ∧
        14 ≤ light.block.levelAt ⟨0, 0, 8, 8⟩) ∧
      ∀ pos, (cornerStore.run first).sentLight? pos =
        (cornerStore.run second).sentLight? pos := by
  intro first second
  have delivered : ∀ operation ∈ cornerRun, operation.WellFormed := by
    simp [cornerRun, StoreOperation.WellFormed]
  have firstSends : ∀ operation ∈ first, operation.IsSend := by
    simp [first, sending, StoreOperation.IsSend]
  have secondSends : ∀ operation ∈ second, operation.IsSend := by
    simp [second, sending, StoreOperation.IsSend]
  have same : ∀ pos, .markDirty pos ∈ first ↔ .markDirty pos ∈ second := by
    intro pos
    simp [first, second, sending, or_comm]
  have firstRests := sideBySide_westFirst.atRest
  have secondRests := sideBySide_eastFirst.atRest
  have crossed : 14 ≤ eastLight.block.levelAt ⟨0, 0, 8, 8⟩ := by
    have bright : 15 ≤ westLight.block.levelAt ⟨0, 15, 8, 8⟩ := by
      rw [westLight, LightInput.block_light]
      exact le_levelAt_lamp rfl
    have inside : Voxel.InRange 1 ⟨0, 0, 8, 8⟩ := by decide
    have there : (⟨0, 0, 8, 8⟩ : Voxel).across .west = ⟨0, 15, 8, 8⟩ := rfl
    have entered := @le_levelAt_of_beside eastInput rfl .west westLight rfl _
      inside rfl
    rw [there] at entered
    rw [eastLight, LightInput.block_light]
    omega
  exact ⟨delivered, firstSends, secondSends, same, firstRests, secondRests,
    ⟨eastLight, sideBySide_westFirst.eastLight_eq, crossed⟩,
    sentLight?_eq_of_same_sends delivered firstSends secondSends same
      firstRests secondRests⟩

/-! ## Light that comes late -/

/-- Light loses a level with each cell of air that it goes through. -/
theorem le_levelAt_south
    {input : LightInput}
    (blocks : input.sections = #[.blocks air])
    {voxel : Voxel}
    (inside : voxel.InRange 1)
    {steps : Nat}
    (room : voxel.z + steps < 16) :
    (input.blockLight lampTable.light).levelAt voxel - steps ≤
      (input.blockLight lampTable.light).levelAt
        { voxel with z := voxel.z + steps } := by
  have dull : Dull lampTable.light input.sections := blocks ▸ dull_air
  obtain ⟨slotLt, xLt, yLt, -⟩ := inside
  induction steps with
  | zero => exact le_rfl
  | succ steps ih =>
      have before := ih (by omega)
      have spread := dull.blockLight_least.solution.spread_le
        { voxel with z := voxel.z + (steps + 1) }
        { voxel with z := voxel.z + steps }
        (inRange_of_air blocks ⟨slotLt, xLt, yLt, room⟩)
        (inRange_of_air blocks
          ⟨slotLt, xLt, yLt, by show voxel.z + steps < 16; omega⟩)
        (Or.inr (Or.inr ⟨rfl, rfl, Or.inr rfl⟩))
      rw [cost_lampTable] at spread
      omega

namespace Standing

variable
    {store : Store}
    {sent : List ColumnPos}
    (standing : Standing store sent)
include standing

theorem le_levelAt_west :
    15 ≤ (store.freshLight west westBlocks).block.levelAt ⟨0, 15, 8, 8⟩ := by
  rw [standing.block_freshLight]
  exact le_levelAt_lamp rfl

theorem le_levelAt_east
    {light : ColumnLight}
    (beside : store.light[west]? = some light)
    (bright : 15 ≤ light.block.levelAt ⟨0, 15, 8, 8⟩) :
    7 ≤ (store.freshLight east #[.blocks air]).block.levelAt
      ⟨0, 0, 8, 15⟩ := by
  have inside : Voxel.InRange 1 ⟨0, 0, 8, 8⟩ := by decide
  have room : (⟨0, 0, 8, 8⟩ : Voxel).z + 7 < 16 := by decide
  have entered := standing.le_levelAt_beside beside bright
  rw [standing.block_freshLight] at entered ⊢
  exact (Nat.sub_le_sub_right entered 7).trans
    (le_levelAt_south rfl inside room)

theorem le_levelAt_corner
    {light : ColumnLight}
    (beside : store.light[east]? = some light)
    (bright : 7 ≤ light.block.levelAt ⟨0, 0, 8, 15⟩) :
    6 ≤ (store.freshLight corner #[.blocks air]).block.levelAt
      ⟨0, 0, 8, 0⟩ := by
  have inside : Voxel.InRange 1 ⟨0, 0, 8, 0⟩ := by decide
  exact (Nat.sub_le_sub_right bright 1).trans
    (@le_level_freshLight _ _ standing corner .north _ beside _ inside rfl)

end Standing

/-- The columns are sent on the way that the light of the lamp takes. -/
def lampFirst : List StoreOperation :=
  sending west ++ sending east ++ sending corner

/-- The column with the lamp is sent last. -/
def lampLast : List StoreOperation :=
  sending east ++ sending corner ++ sending west

/--
The light of the lamp goes around the corner if the columns are sent on its
way.
-/
theorem resting_lampFirst :
    Resting (cornerStore.run lampFirst) [corner, east, west] ∧
      ∃ light, (cornerStore.run lampFirst).light[corner]? = some light ∧
        6 ≤ light.block.levelAt ⟨0, 0, 8, 0⟩ := by
  obtain ⟨atWest, atEast, atCorner⟩ := columns_cornerStore
  -- The western column takes the light of its lamp.
  obtain ⟨first, firstColumns, -⟩ :=
    resting_cornerStore.send rfl atWest (by decide)
  have westLight := resting_cornerStore.light_send rfl atWest (by decide)
  have westLevel := resting_cornerStore.toStanding.le_levelAt_west
  -- From there it goes through the eastern one.
  rw [← firstColumns] at atEast atCorner
  obtain ⟨second, secondColumns, -⟩ := first.send rfl atEast (by decide)
  have eastLight := first.light_send rfl atEast (by decide)
  rw [palettes_convert_create] at eastLight
  have eastLevel := first.toStanding.le_levelAt_east westLight westLevel
  -- What is left comes around the corner.
  rw [← secondColumns] at atCorner
  obtain ⟨third, -⟩ := second.send rfl atCorner (by decide)
  have cornerLight := second.light_send rfl atCorner (by decide)
  rw [palettes_convert_create] at cornerLight
  have cornerLevel := second.toStanding.le_levelAt_corner eastLight eastLevel
  exact ⟨third, _, cornerLight, cornerLevel⟩

/--
The column around the corner stays dark if the light of the lamp comes last.
-/
theorem resting_lampLast :
    Resting (cornerStore.run lampLast) [west, corner, east] ∧
      ∃ light, (cornerStore.run lampLast).light[corner]? = some light ∧
        ∀ slot index, light.block.level slot index = 0 := by
  obtain ⟨atWest, atEast, atCorner⟩ := columns_cornerStore
  -- The eastern column is sent where no light is.
  obtain ⟨first, firstColumns, -⟩ :=
    resting_cornerStore.send rfl atEast (by decide)
  have eastLight := resting_cornerStore.light_send rfl atEast (by decide)
  rw [palettes_convert_create] at eastLight
  have eastDark :=
    @Standing.level_freshLight_eq_zero _ _ resting_cornerStore.toStanding east
      fun direction light known =>
        absurd (resting_cornerStore.toStanding.mem_of_light known)
          List.not_mem_nil
  -- It is the only neighbor of the one around the corner then.
  rw [← firstColumns] at atWest atCorner
  obtain ⟨second, secondColumns, -⟩ := first.send rfl atCorner (by decide)
  have cornerLight := first.light_send rfl atCorner (by decide)
  rw [palettes_convert_create] at cornerLight
  have cornerDark :=
    @Standing.level_freshLight_eq_zero _ _ first.toStanding corner
      fun direction light known slot index => by
        have same :=
          List.mem_singleton.1 (first.toStanding.mem_of_light known)
        rw [same, eastLight] at known
        exact Option.some.inj known ▸ eastDark slot index
  -- Sending the western column changes the light of its neighbors alone.
  rw [← secondColumns] at atWest
  obtain ⟨third, -, -, others⟩ := second.send rfl atWest (by decide)
  have kept := others corner (by decide)
  have apart : ¬ compare west corner = .eq := by decide
  rw [Std.TreeMap.getElem?_insert, if_neg apart, cornerLight] at kept
  exact ⟨third, _, kept, cornerDark⟩

/--
Each column is sent once, and nothing is due any more, but the light depends on
the order.
-/
theorem exists_light_by_order :
    (∀ pos, cornerStore.isSent pos = false ∧
      cornerStore.isDirty pos = false) ∧
      1 ≤ cornerStore.settings.scheduler.columnsPerTick ∧
      1 ≤ cornerStore.settings.scheduler.lightUpdatesPerTick ∧
      (∀ operation ∈ lampFirst ++ lampLast, operation.IsSend) ∧
      (∀ pos, .markDirty pos ∈ lampFirst ↔ .markDirty pos ∈ lampLast) ∧
      (∀ pos, .markDirty pos ∈ lampFirst →
        ∃ column, cornerStore.column? pos = some column) ∧
      (∀ store ∈ [cornerStore.run lampFirst, cornerStore.run lampLast], ∀ pos,
        ¬ store.dirty.contains pos = true ∧
        ¬ store.relight.contains pos = true) ∧
      (cornerStore.run lampFirst).sentLight? corner ≠
        (cornerStore.run lampLast).sentLight? corner := by
  obtain ⟨bright, light, lit, level⟩ := resting_lampFirst
  obtain ⟨dark, other, unlit, none⟩ := resting_lampLast
  refine ⟨untouched_cornerStore, ?_, ?_, ?_, ?_, ?_, ?_, ?_⟩
  · rw [resting_cornerStore.settings_eq]
    decide
  · rw [resting_cornerStore.settings_eq]
    decide
  · simp [lampFirst, lampLast, sending, StoreOperation.IsSend]
  · intro pos
    simp [lampFirst, lampLast, sending, or_comm, or_left_comm]
  · intro pos member
    apply loaded_cornerStore
    simpa [lampFirst, sending] using member
  · intro store member pos
    rcases List.mem_pair.1 member with rfl | rfl
    · exact ⟨bright.idle pos, bright.unwaited pos⟩
    · exact ⟨dark.idle pos, dark.unwaited pos⟩
  · intro same
    have both : some light = some other := lit.symm.trans (same.trans unlit)
    cases both
    rw [LightData.levelAt, none] at level
    exact absurd level (by decide)

end Store

end VoxelRelay
