import VoxelRelay.Proofs.ColumnQueues
import VoxelRelay.Proofs.StoreLoops

/-!
# What sending and lighting a column change

Sending a loaded column stores its blocks and its light, marks it as sent, and
makes neighbors due to be lit anew; lighting a sent column anew leaves exactly
the computed light stored for it, and tells the client unless that light had
been told already.  These are the only steps of a tick that touch what was
derived from columns, so everything about ticks follows from them.
-/

namespace VoxelRelay

theorem ColumnLight.eq_of_differs_eq_false
    {left right : ColumnLight}
    (same : left.differs right = false) :
    left = right := by
  obtain ⟨leftSky, leftBlock⟩ := left
  obtain ⟨rightSky, rightBlock⟩ := right
  simpa [differs, LightData.differs] using same

namespace Store

/-- A column counts as sent with blocks and light. -/
def withSent
    (store : Store)
    (pos : ColumnPos)
    (palettes : Array Palette)
    (light : ColumnLight) : Store :=
  { store with
    converted := store.converted.insert pos palettes
    light := store.light.insert pos light
    sent := store.sent.insert pos }

/-- Other light is stored for a column. -/
def withLight
    (store : Store)
    (pos : ColumnPos)
    (light : ColumnLight) : Store :=
  { store with light := store.light.insert pos light }

/-- Other light is stored, and other columns are due to be lit anew. -/
def withRelit
    (store : Store)
    (light : Std.TreeMap ColumnPos ColumnLight)
    (relight : ColumnQueue) : Store :=
  { store with light := light, relight := relight }

/-- Only the queue of columns that are due to be lit anew changes. -/
theorem relightNeighbors_eq
    (store : Store)
    (pos : ColumnPos) :
    store.relightNeighbors pos =
      { store with relight := (store.relightNeighbors pos).relight } := by
  unfold relightNeighbors
  generalize pos.neighbors = neighbors
  induction neighbors generalizing store with
  | nil => rfl
  | cons neighbor rest ih =>
      rw [List.foldl_cons]
      split
      · exact ih _
      · exact ih store

/--
Exactly the neighbors that were sent join the columns that are due to be lit
anew.
-/
theorem contains_relight_relightNeighbors_iff
    (store : Store)
    (pos other : ColumnPos) :
    (store.relightNeighbors pos).relight.contains other = true ↔
      store.relight.contains other = true ∨
        other ∈ pos.neighbors ∧ other ∈ store.sent ∧
          other ∈ store.converted := by
  unfold relightNeighbors
  generalize pos.neighbors = neighbors
  induction neighbors generalizing store with
  | nil => simp
  | cons neighbor rest ih =>
      rw [List.foldl_cons]
      split
      · next due =>
          obtain ⟨sent, converted⟩ := Bool.and_eq_true_iff.1 due
          rw [ih, ColumnQueue.contains_push_iff]
          constructor
          · rintro ((rfl | waits) | ⟨member, derived⟩)
            · exact Or.inr ⟨List.mem_cons_self, sent, converted⟩
            · exact Or.inl waits
            · exact Or.inr ⟨List.mem_cons_of_mem _ member, derived⟩
          · rintro (waits | ⟨member, derived⟩)
            · exact Or.inl (Or.inr waits)
            · rcases List.mem_cons.1 member with rfl | later
              · exact Or.inl (Or.inl rfl)
              · exact Or.inr ⟨later, derived⟩
      · next notDue =>
          rw [ih]
          constructor
          · exact Or.imp_right fun ⟨member, derived⟩ =>
              ⟨List.mem_cons_of_mem _ member, derived⟩
          · rintro (waits | ⟨member, sent, converted⟩)
            · exact Or.inl waits
            · rcases List.mem_cons.1 member with rfl | later
              · exact absurd (Bool.and_eq_true_iff.2 ⟨sent, converted⟩) notDue
              · exact Or.inr ⟨later, sent, converted⟩

theorem columns_of_column?
    {store : Store}
    {pos : ColumnPos}
    {column : Column}
    (loaded : store.column? pos = some column) :
    store.columns[pos]? = some column := by
  unfold column? at loaded
  split at loaded
  · exact loaded
  · cases loaded

theorem loads_of_column?
    {store : Store}
    {pos : ColumnPos}
    {column : Column}
    (loaded : store.column? pos = some column) :
    store.view.loads pos = true := by
  unfold column? at loaded
  split at loaded
  · next shown => exact shown
  · cases loaded

end Store

namespace TickState

/-- The blocks of a column in the form in which it is sent. -/
def target (state : TickState) (column : Column) : TargetColumn :=
  state.store.converter.convert column state.store.minY

/--
The light that is computed or looked up for a column with the given blocks.
-/
def computed
    (state : TickState)
    (pos : ColumnPos)
    (palettes : Array Palette) : ColumnLight × LightCache :=
  state.cache.getOrCompute state.store.table.light
    (state.store.lightInput pos palettes)

/-- The same state, in which the blocks of a column are stored already. -/
def converting
    (state : TickState)
    (pos : ColumnPos)
    (palettes : Array Palette) : TickState :=
  { state with
    store :=
      { state.store with
        converted := state.store.converted.insert pos palettes } }

theorem sendColumn_of_not_loaded
    {state : TickState}
    {pos : ColumnPos}
    (absent : state.store.column? pos = none) :
    state.sendColumn pos = state := by
  simp only [sendColumn, absent]

/-- A loaded column is converted and lit, and the client is told both. -/
theorem sendColumn_of_loaded
    {state : TickState}
    {pos : ColumnPos}
    {column : Column}
    (loaded : state.store.column? pos = some column) :
    let palettes := (state.target column).palettes
    let light := ((state.converting pos palettes).computed pos palettes).1
    (state.sendColumn pos).store =
        (state.store.withSent pos palettes light).relightNeighbors pos ∧
      (state.sendColumn pos).messages =
        .column (state.target column) (.ofLight light) :: state.messages := by
  simp only [sendColumn, loaded]
  exact ⟨rfl, rfl⟩

theorem relightColumn_of_not_converted
    {state : TickState}
    {pos : ColumnPos}
    (absent : state.store.converted[pos]? = none) :
    state.relightColumn pos = state := by
  simp only [relightColumn, absent]

/--
A column that was sent is lit anew; the client is told unless the computed
light is the one that is stored already.
-/
theorem relightColumn_of_converted
    {state : TickState}
    {pos : ColumnPos}
    {palettes : Array Palette}
    (converted : state.store.converted[pos]? = some palettes) :
    let light := (state.computed pos palettes).1
    (state.store.light[pos]? = some light ∧
        (state.relightColumn pos).store = state.store ∧
        (state.relightColumn pos).messages = state.messages) ∨
      ((state.relightColumn pos).store = state.store.withLight pos light ∧
        (state.relightColumn pos).messages =
          .light pos (.ofLight light) :: state.messages) := by
  simp only [relightColumn, converted]
  cases known : state.store.light[pos]? with
  | none => exact Or.inr ⟨rfl, rfl⟩
  | some old =>
      simp only
      split
      · exact Or.inr ⟨rfl, rfl⟩
      · next same =>
          have equal :=
            ColumnLight.eq_of_differs_eq_false (Bool.eq_false_iff.2 same)
          exact Or.inl ⟨congrArg some equal.symm, rfl, rfl⟩

theorem light_relightColumn
    {state : TickState}
    {pos : ColumnPos}
    {palettes : Array Palette}
    (converted : state.store.converted[pos]? = some palettes) :
    (state.relightColumn pos).store.light[pos]? =
      some (state.computed pos palettes).1 := by
  rcases relightColumn_of_converted converted with
    ⟨known, same, -⟩ | ⟨relit, -⟩
  · rw [same, known]
  · rw [relit]
    exact Std.TreeMap.getElem?_insert_self

theorem exists_light_relightColumn
    (state : TickState)
    (pos : ColumnPos) :
    ∃ light, (state.relightColumn pos).store =
      { state.store with light := light } ∧
      ∀ other, other ≠ pos → light[other]? = state.store.light[other]? := by
  cases converted : state.store.converted[pos]? with
  | none =>
      rw [relightColumn_of_not_converted converted]
      exact ⟨_, rfl, fun _ _ => rfl⟩
  | some palettes =>
      rcases relightColumn_of_converted converted with
        ⟨-, same, -⟩ | ⟨relit, -⟩
      · exact ⟨_, same, fun _ _ => rfl⟩
      · refine ⟨_, relit, fun other apart => ?_⟩
        rw [Std.TreeMap.getElem?_insert, if_neg]
        exact fun same => apart (Std.LawfulEqCmp.eq_of_compare same).symm

theorem dirty_sendColumn
    (state : TickState)
    (pos : ColumnPos) :
    (state.sendColumn pos).store.dirty = state.store.dirty := by
  cases loaded : state.store.column? pos with
  | none => rw [sendColumn_of_not_loaded loaded]
  | some column =>
      rw [(sendColumn_of_loaded loaded).1, Store.relightNeighbors_eq]
      rfl

/-! ## Due columns -/

theorem sendDue_of_idle
    {state : TickState}
    (idle : ∀ pos, ¬ state.store.dirty.contains pos = true)
    (budget : Nat) :
    state.sendDue budget = state := by
  cases budget with
  | zero => rfl
  | succ budget =>
      unfold sendDue
      split
      · rfl
      · next pos _ taken =>
            exact absurd (ColumnQueue.pop?_eq_some taken).1 (idle pos)

theorem relightDue_of_idle
    {state : TickState}
    (idle : ∀ pos, ¬ state.store.relight.contains pos = true)
    (budget : Nat) :
    state.relightDue budget = state := by
  cases budget with
  | zero => rfl
  | succ budget =>
      rw [relightDue]
      split
      · rfl
      · next pos _ taken =>
            exact absurd (ColumnQueue.pop?_eq_some taken).1 (idle pos)

/-- A tick sends the only column that is due. -/
theorem sendDue_of_pop?
    {state : TickState}
    {pos : ColumnPos}
    {rest : ColumnQueue}
    (taken : state.store.dirty.pop? = some (pos, rest))
    (alone : ∀ other, ¬ rest.contains other = true)
    (budget : Nat) :
    state.sendDue (budget + 1) =
      { state with store := { state.store with dirty := rest } }.sendColumn
        pos := by
  rw [sendDue, taken]
  apply sendDue_of_idle
  rwa [dirty_sendColumn]

/-- A tick lights the only column anew that is due. -/
theorem relightDue_of_pop?
    {state : TickState}
    {pos : ColumnPos}
    {rest : ColumnQueue}
    (taken : state.store.relight.pop? = some (pos, rest))
    (alone : ∀ other, ¬ rest.contains other = true)
    (budget : Nat) :
    state.relightDue (budget + 1) =
      { state with
        store := { state.store with relight := rest } }.relightColumn
        pos := by
  rw [relightDue, taken]
  apply relightDue_of_idle
  obtain ⟨light, relit, -⟩ := exists_light_relightColumn
    { state with store := { state.store with relight := rest } } pos
  rwa [relit]

/--
Lighting columns anew takes them from the queue, and changes the light of no
other column.
-/
theorem exists_withRelit_relightDue
    (budget : Nat)
    (state : TickState) :
    ∃ light relight,
      (state.relightDue budget).store = state.store.withRelit light relight ∧
      (∀ pos, ¬ state.store.relight.contains pos = true →
        light[pos]? = state.store.light[pos]?) ∧
      ∀ pos, relight.contains pos = true →
        state.store.relight.contains pos = true := by
  induction budget generalizing state with
  | zero => exact ⟨_, _, rfl, fun _ _ => rfl, fun _ waits => waits⟩
  | succ budget ih =>
      unfold relightDue
      split
      · exact ⟨_, _, rfl, fun _ _ => rfl, fun _ waits => waits⟩
      · next pos rest taken =>
          obtain ⟨waits, remaining⟩ := ColumnQueue.pop?_eq_some taken
          let remainder : TickState :=
            { state with store := { state.store with relight := rest } }
          obtain ⟨lights, step, unmoved⟩ :=
            remainder.exists_light_relightColumn pos
          obtain ⟨light, relight, done, kept, left⟩ :=
            ih (remainder.relightColumn pos)
          rw [step] at done kept left
          refine ⟨light, relight, done, ?_, ?_⟩
          · intro other still
            have apart : other ≠ pos := by
              rintro rfl
              exact still waits
            exact (kept other fun waits =>
              still ((remaining other).1 waits).2).trans
                (unmoved other apart)
          · exact fun other waits =>
              ((remaining other).1 (left other waits)).2

/--
With budget enough for all that wait, none waits after columns were lit anew.
-/
theorem idle_relightDue
    {state : TickState}
    (lined : state.store.relight.Lined)
    {waiting : List ColumnPos}
    (all : ∀ pos, state.store.relight.contains pos = true → pos ∈ waiting)
    {budget : Nat}
    (enough : waiting.length ≤ budget) :
    (state.relightDue budget).store.relight.Lined ∧
      ∀ pos, ¬ (state.relightDue budget).store.relight.contains
        pos = true := by
  induction budget generalizing state waiting with
  | zero =>
      obtain rfl := List.eq_nil_of_length_eq_zero (Nat.le_zero.1 enough)
      exact ⟨lined, fun pos waits => absurd (all pos waits) List.not_mem_nil⟩
  | succ budget ih =>
      rw [relightDue]
      split
      · next none => exact ⟨lined, lined.idle_of_pop?_eq_none none⟩
      · next pos rest taken =>
          let remainder : TickState :=
            { state with store := { state.store with relight := rest } }
          obtain ⟨light, step, -⟩ := remainder.exists_light_relightColumn pos
          have queue : (remainder.relightColumn pos).store.relight =
              rest := by rw [step]
          obtain ⟨waits, remaining⟩ := ColumnQueue.pop?_eq_some taken
          refine @ih (remainder.relightColumn pos) ?_
            (waiting.erase pos) ?_ ?_
          · rw [queue]
            exact lined.pop? taken
          · intro other still
            rw [queue] at still
            obtain ⟨apart, before⟩ := (remaining other).1 still
            exact (List.mem_erase_of_ne apart).2 (all other before)
          · rw [List.length_erase_of_mem (all pos waits)]
            exact Nat.sub_le_of_le_add enough

end TickState

/-! ## Ticks -/

theorem LightCache.light_getOrCompute_create
    (capacity : Nat)
    (properties : LightProperties)
    (input : LightInput) :
    ((create capacity none).getOrCompute properties input).1 =
      input.light properties := by
  simp [getOrCompute, create, get?, compute]

/-- A cache that keeps nothing stays as it is. -/
theorem LightCache.getOrCompute_create_zero
    (properties : LightProperties)
    (input : LightInput) :
    (create 0 none).getOrCompute properties input =
      (input.light properties, create 0 none) := by
  simp [getOrCompute, create, get?, compute, put]

namespace Store

/--
The light of a column with the given blocks, which its neighbors are lit by
already.
-/
def freshLight
    (store : Store)
    (pos : ColumnPos)
    (palettes : Array Palette) : ColumnLight :=
  ({ store with converted := store.converted.insert pos palettes }.lightInput
    pos palettes).light
    store.table.light

theorem lined_relightNeighbors
    {store : Store}
    (lined : store.relight.Lined)
    (pos : ColumnPos) :
    (store.relightNeighbors pos).relight.Lined :=
  relightNeighbors_induction (·.relight.Lined)
    (fun _ neighbor _ before => before.push neighbor) lined pos

/-- A tick in which one column is due sends it before columns are lit anew. -/
theorem tick_of_pop?
    {store : Store}
    {pos : ColumnPos}
    {column : Column}
    {rest : ColumnQueue}
    (taken : store.dirty.pop? = some (pos, rest))
    (alone : ∀ other, ¬ rest.contains other = true)
    (loaded : store.column? pos = some column)
    (budget : store.settings.scheduler.columnsPerTick ≠ 0)
    (capacity : Nat) :
    let palettes := (store.converter.convert column store.minY).palettes
    let light := store.freshLight pos palettes
    ∃ sent : TickState,
      sent.store =
        ({ store.withSent pos palettes light with
            dirty := rest }).relightNeighbors pos ∧
      (store.tick (.create capacity none) false).1.store =
        (sent.relightDue
          store.settings.scheduler.lightUpdatesPerTick).store := by
  intro palettes light
  let start : TickState :=
    ⟨store, .create capacity none, [], [], ⟨0, 0, 0, 0⟩⟩
  let next : TickState := { start with store := { store with dirty := rest } }
  obtain ⟨budget, some⟩ := Nat.exists_eq_succ_of_ne_zero budget
  have sending : start.sendDue store.settings.scheduler.columnsPerTick =
      next.sendColumn pos := by
    rw [some]
    exact TickState.sendDue_of_pop? taken alone budget
  refine ⟨next.sendColumn pos, ?_, ?_⟩
  · rw [(@TickState.sendColumn_of_loaded next pos column loaded).1]
    simp only [TickState.computed, TickState.converting, next, start,
      LightCache.light_getOrCompute_create]
    rfl
  · rw [← sending]
    rfl

/--
A tick that sends one column also lights the only neighbor anew that is due
then.
-/
theorem light_tick_of_pop?
    {store sent : Store}
    {pos other : ColumnPos}
    {column : Column}
    {rest later : ColumnQueue}
    {blocks palettes : Array Palette}
    (taken : store.dirty.pop? = some (pos, rest))
    (alone : ∀ place, ¬ rest.contains place = true)
    (loaded : store.column? pos = some column)
    (budget : store.settings.scheduler.columnsPerTick ≠ 0)
    (lightBudget : store.settings.scheduler.lightUpdatesPerTick ≠ 0)
    (shown : (store.converter.convert column store.minY).palettes = blocks)
    (sends : sent =
      ({ store.withSent pos blocks (store.freshLight pos blocks) with
          dirty := rest }).relightNeighbors pos)
    (next : sent.relight.pop? = some (other, later))
    (still : ∀ place, ¬ later.contains place = true)
    (converted : sent.converted[other]? = some palettes) :
    (store.tick (.create 0 none) false).1.store.light[other]? =
      some ((sent.lightInput other palettes).light store.table.light) := by
  let start : TickState := ⟨store, .create 0 none, [], [], ⟨0, 0, 0, 0⟩⟩
  let turn : TickState := { start with store := { store with dirty := rest } }
  let state := turn.sendColumn pos
  let relit : TickState :=
    { state with store := { state.store with relight := later } }
  have store_eq : state.store = sent := by
    rw [sends, ← shown,
      (@TickState.sendColumn_of_loaded turn pos column loaded).1]
    simp only [TickState.computed, TickState.converting, turn, start,
      LightCache.light_getOrCompute_create]
    rfl
  have cache_eq : state.cache = .create 0 none := by
    simp only [state, TickState.sendColumn,
      show turn.store.column? pos = _ from loaded]
    exact congrArg Prod.snd (LightCache.getOrCompute_create_zero _ _)
  have ticked : (store.tick (.create 0 none) false).1.store =
      (relit.relightColumn other).store := by
    obtain ⟨budget, columns⟩ := Nat.exists_eq_succ_of_ne_zero budget
    obtain ⟨lightBudget, lights⟩ := Nat.exists_eq_succ_of_ne_zero lightBudget
    have sending :
        start.sendDue store.settings.scheduler.columnsPerTick = state := by
      rw [columns]
      exact TickState.sendDue_of_pop? taken alone budget
    have relighting :
        state.relightDue store.settings.scheduler.lightUpdatesPerTick =
          relit.relightColumn other := by
      rw [lights]
      exact TickState.relightDue_of_pop? (store_eq ▸ next) still lightBudget
    rw [← relighting, ← sending]
    rfl
  have there : relit.store.converted[other]? = some palettes := by
    rw [← converted, ← store_eq]
  have table_eq : sent.table = store.table := by
    rw [sends, table, table, relightNeighbors_eq]
    rfl
  have task_eq : relit.computed other palettes =
      relit.cache.getOrCompute sent.table.light
        (sent.lightInput other palettes) := by
    rw [← store_eq]
    rfl
  rw [ticked, TickState.light_relightColumn there, task_eq,
    show relit.cache = _ from cache_eq, LightCache.getOrCompute_create_zero,
    table_eq]

/--
A tick in which one column is due sends it, and lights at most its neighbors
anew.
-/
theorem exists_tick_of_pop?
    {store : Store}
    {pos : ColumnPos}
    {column : Column}
    {rest : ColumnQueue}
    (taken : store.dirty.pop? = some (pos, rest))
    (alone : ∀ other, ¬ rest.contains other = true)
    (loaded : store.column? pos = some column)
    (budget : store.settings.scheduler.columnsPerTick ≠ 0)
    (capacity : Nat) :
    let palettes := (store.converter.convert column store.minY).palettes
    let light := store.freshLight pos palettes
    ∃ lights relight,
      (store.tick (.create capacity none) false).1.store =
          { store.withSent pos palettes light with dirty := rest }.withRelit
            lights relight ∧
        (∀ other, other ∉ pos.neighbors →
          ¬ store.relight.contains other = true →
          lights[other]? = (store.light.insert pos light)[other]?) ∧
        ∀ other, relight.contains other = true →
          store.relight.contains other = true ∨
          other ∈ pos.neighbors ∧ other ∈ store.sent.insert pos := by
  intro palettes light
  obtain ⟨state, sent, ticked⟩ :=
    tick_of_pop? taken alone loaded budget capacity
  obtain ⟨lights, relight, done, kept, left⟩ :=
    state.exists_withRelit_relightDue
      store.settings.scheduler.lightUpdatesPerTick
  rw [sent] at done kept left
  have due := contains_relight_relightNeighbors_iff
    { store.withSent pos palettes light with dirty := rest } pos
  refine ⟨lights, relight, ?_, ?_, ?_⟩
  · rw [ticked, done, relightNeighbors_eq]
    rfl
  · intro other apart still
    have idle : ¬ ({ store.withSent pos palettes light with
        dirty := rest }.relightNeighbors pos).relight.contains
          other = true := by
      rw [due]
      rintro (waits | ⟨member, -⟩)
      · exact still waits
      · exact apart member
    rw [kept other idle, relightNeighbors_eq]
    rfl
  · intro other waits
    exact ((due other).1 (left other waits)).imp_right
      fun ⟨member, sent, _⟩ => ⟨member, sent⟩

/--
With budget for all neighbors, none waits to be lit anew after such a tick.
-/
theorem idle_relight_tick
    {store : Store}
    {pos : ColumnPos}
    {column : Column}
    {rest : ColumnQueue}
    (taken : store.dirty.pop? = some (pos, rest))
    (alone : ∀ other, ¬ rest.contains other = true)
    (loaded : store.column? pos = some column)
    (budget : store.settings.scheduler.columnsPerTick ≠ 0)
    (capacity : Nat)
    (lined : store.relight.Lined)
    (idle : ∀ other, ¬ store.relight.contains other = true)
    (enough : pos.neighbors.length ≤
      store.settings.scheduler.lightUpdatesPerTick) :
    let after := (store.tick (.create capacity none) false).1.store
    after.relight.Lined ∧ ∀ other, ¬ after.relight.contains other = true := by
  intro after
  obtain ⟨state, sent, ticked⟩ :=
    tick_of_pop? taken alone loaded budget capacity
  rw [show after = _ from ticked]
  refine state.idle_relightDue ?_ ?_ enough
  · rw [sent]
    apply lined_relightNeighbors
    exact lined
  · intro other waits
    rw [sent, contains_relight_relightNeighbors_iff] at waits
    rcases waits with before | ⟨near, -⟩
    · exact absurd before (idle other)
    · exact near

end Store

end VoxelRelay
