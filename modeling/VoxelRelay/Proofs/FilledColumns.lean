import Mathlib.Data.List.Nodup
import VoxelRelay.Proofs.BlockUpdates
import VoxelRelay.Proofs.CellPositions
import VoxelRelay.Proofs.SectionRequests
import VoxelRelay.Proofs.SendingTurns

/-!
# A session fills its columns

A session starts columns, each with some of its sections declared, and asks for
the others.  The answers may come in any order.  Through all of this a section
is followed by one question, whether it still awaits its content: it does from
the start until its answer comes, and its answer is under way for just as long.
When all answers are there nothing is awaited any more, and the columns that
got an answer are due to be sent, each of them once.
-/

namespace VoxelRelay

/-! ## Sections of a world -/

namespace WorldSettings

/-- The coordinate of the lowest sections. -/
def bottom (world : WorldSettings) : Int32 := sectionCoordinate world.minY

theorem sectionCount_le (world : WorldSettings) :
    world.sectionCount ≤ 2 ^ 28 := by
  have bound := world.height.toNat_lt
  rw [sectionCount]
  omega

theorem toInt_bottom_le (world : WorldSettings) :
    world.bottom.toInt ≤ 2 ^ 27 := by
  have high := world.minY.toInt_lt
  rw [bottom, toInt_sectionCoordinate]
  omega

/--
Counting up from the lowest sections stays within the range of coordinates.
-/
theorem toInt_bottom_add
    (world : WorldSettings)
    {slot : Nat}
    (inside : slot ≤ world.sectionCount) :
    (world.bottom + .ofNat slot).toInt = world.bottom.toInt + slot := by
  have count := world.sectionCount_le
  have low := world.bottom.le_toInt
  have high := world.toInt_bottom_le
  rw [Int32.toInt_add, Int32.toInt_ofNat_of_lt (by omega),
    Int.bmod_eq_of_le (by omega) (by omega)]

end WorldSettings

/-- The section of a column in a slot. -/
def ColumnPos.sectionIn
    (pos : ColumnPos)
    (world : WorldSettings)
    (slot : Nat) : SectionPos :=
  ⟨pos.x, world.bottom + .ofNat slot, pos.z⟩

theorem ColumnPos.sectionIn_inj
    {pos other : ColumnPos}
    {world : WorldSettings}
    {slot place : Nat}
    (inside : slot ≤ world.sectionCount)
    (within : place ≤ world.sectionCount)
    (same : pos.sectionIn world slot = other.sectionIn world place) :
    pos = other ∧ slot = place := by
  have column : pos = other := congrArg SectionPos.column same
  have height : world.bottom + .ofNat slot = world.bottom + .ofNat place :=
    congrArg SectionPos.y same
  have count := congrArg Int32.toInt height
  rw [world.toInt_bottom_add inside, world.toInt_bottom_add within] at count
  exact ⟨column, by omega⟩

namespace Store

theorem slot?_sectionIn
    {store : Store}
    {world : WorldSettings}
    (same : store.settings.world = world)
    (pos : ColumnPos)
    {slot : Nat}
    (inside : slot < world.sectionCount) :
    store.slot? (pos.sectionIn world slot).y = some slot := by
  have count := world.sectionCount_le
  have offset : world.bottom + .ofNat slot - world.bottom = .ofNat slot := by
    rw [Int32.add_comm, Int32.add_sub_cancel]
  subst same
  refine slot?_eq_some_iff.2 ⟨?_, inside⟩
  exact (congrArg Int32.toInt offset).trans
    (Int32.toInt_ofNat_of_lt (by omega))

/-! ## Wishes -/

theorem mem_wanted_want_iff
    {store : Store}
    {pos : SectionPos}
    (inside : store.view.loads pos.column = true)
    (other : SectionPos) :
    other ∈ (store.want pos).1.wanted ↔
      other ∈ store.wanted ∨ other = pos := by
  rw [want, if_pos inside, Std.TreeSet.mem_insert, Std.compare_eq_iff_eq,
    or_comm, @eq_comm _ pos other]

/-- To want a range is to want each section in it. -/
theorem mem_wanted_wantRange_iff
    {store : Store}
    {pos : ColumnPos}
    (inside : store.view.loads pos = true)
    (first last : Int32)
    (other : SectionPos) :
    other ∈ (store.wantRange pos first last).wanted ↔ other ∈ store.wanted ∨
      ∃ step < (last.toInt - first.toInt).toNat,
        other = ⟨pos.x, first + .ofNat step, pos.z⟩ := by
  unfold wantRange
  simp only [← List.mem_range]
  generalize List.range (last.toInt - first.toInt).toNat = steps
  induction steps generalizing store with
  | nil => simp
  | cons step rest ih =>
      let place : SectionPos := ⟨pos.x, first + .ofNat step, pos.z⟩
      have kept : (store.want place).1.view = store.view := by rw [want_eq]
      have still : (store.want place).1.view.loads pos = true :=
        kept.symm ▸ inside
      have wanted : other ∈ (store.want place).1.wanted ↔
          other ∈ store.wanted ∨ other = place :=
        @mem_wanted_want_iff store place inside other
      rw [List.foldl_cons, ih still, wanted, or_assoc,
        List.exists_mem_cons_iff]

end Store

/-! ## Plans -/

/--
A column that is to be started, and how many of its sections are declared.
-/
structure PlannedColumn where
  pos : ColumnPos
  declared : Nat

namespace PlannedColumn

/-- The column is started. -/
def creation (planned : PlannedColumn) : StoreOperation :=
  .createColumn planned.pos planned.declared

/-- The sections past the declared ones are asked for. -/
def request
    (planned : PlannedColumn)
    (world : WorldSettings) : StoreOperation :=
  .wantRange planned.pos (world.bottom + .ofNat planned.declared)
    (world.bottom + .ofNat world.sectionCount)

/-- A section is one of those past the declared ones. -/
def Lacks
    (planned : PlannedColumn)
    (world : WorldSettings)
    (place : SectionPos) : Prop :=
  ∃ slot, planned.declared ≤ slot ∧ slot < world.sectionCount ∧
    place = planned.pos.sectionIn world slot

theorem Lacks.column_eq
    {planned : PlannedColumn}
    {world : WorldSettings}
    {place : SectionPos}
    (lacks : planned.Lacks world place) :
    place.column = planned.pos := by
  obtain ⟨slot, -, -, rfl⟩ := lacks
  rfl

/-- A request is for the sections that are lacking. -/
theorem mem_wanted_request_iff
    {store : Store}
    {planned : PlannedColumn}
    {world : WorldSettings}
    (inside : store.view.loads planned.pos = true)
    (declared : planned.declared ≤ world.sectionCount)
    (place : SectionPos) :
    place ∈ (store.perform (planned.request world)).1.wanted ↔
      place ∈ store.wanted ∨ planned.Lacks world place := by
  refine (Store.mem_wanted_wantRange_iff inside _ _ place).trans
    (or_congr_right ?_)
  rw [world.toInt_bottom_add declared, world.toInt_bottom_add le_rfl]
  constructor
  · rintro ⟨step, below, rfl⟩
    refine ⟨planned.declared + step, Nat.le_add_right _ _, by omega, ?_⟩
    rw [ColumnPos.sectionIn, Int32.ofNat_add, Int32.add_assoc]
  · rintro ⟨slot, high, low, rfl⟩
    refine ⟨slot - planned.declared, by omega, ?_⟩
    rw [Int32.add_assoc, ← Int32.ofNat_add, Nat.add_sub_cancel' high]
    rfl

end PlannedColumn

/--
Distinct columns within the window of a fresh store, to be started and filled.
-/
structure SessionPlan (settings : Settings) where
  columns : List PlannedColumn
  distinct : (columns.map PlannedColumn.pos).Nodup
  inside : ∀ planned ∈ columns,
    (⟨⟨0, 0⟩, settings.view.radius, none⟩ : ViewWindow).renders
      planned.pos = true
  declared_le : ∀ planned ∈ columns,
    planned.declared ≤ settings.world.sectionCount

namespace SessionPlan

variable {settings : Settings} (plan : SessionPlan settings)

/-- Every column is started, and its lacking sections are asked for. -/
def operations : List StoreOperation :=
  plan.columns.flatMap fun planned =>
    [planned.creation, planned.request settings.world]

/-- A section of one of the columns is lacking. -/
def Lacks (place : SectionPos) : Prop :=
  ∃ planned ∈ plan.columns, planned.Lacks settings.world place

/-- The columns of which sections are lacking. -/
def incomplete : List ColumnPos :=
  (plan.columns.filter fun planned =>
    planned.declared < settings.world.sectionCount).map
      PlannedColumn.pos

variable {plan}

theorem eq_of_pos_eq
    {planned other : PlannedColumn}
    (member : planned ∈ plan.columns)
    (second : other ∈ plan.columns)
    (same : planned.pos = other.pos) :
    planned = other :=
  List.inj_on_of_nodup_map plan.distinct member second same

theorem nodup_incomplete : plan.incomplete.Nodup :=
  plan.distinct.sublist (List.filter_sublist.map _)

/-- A column is incomplete exactly when a section of it is lacking. -/
theorem mem_incomplete_iff {pos : ColumnPos} :
    pos ∈ plan.incomplete ↔
      ∃ place, plan.Lacks place ∧ place.column = pos := by
  simp only [incomplete, List.mem_map, List.mem_filter, decide_eq_true_eq]
  constructor
  · rintro ⟨planned, ⟨member, low⟩, rfl⟩
    exact ⟨_, ⟨planned, member, planned.declared, le_rfl, low, rfl⟩, rfl⟩
  · rintro ⟨place, ⟨planned, member, slot, high, low, rfl⟩, rfl⟩
    exact ⟨planned, ⟨member, Nat.lt_of_le_of_lt high low⟩, rfl⟩

end SessionPlan

namespace Store

/-! ## Starting columns and asking for their sections -/

/-- A store in which part of a plan was carried out, in whatever order. -/
structure Prepared
    {settings : Settings}
    (plan : SessionPlan settings)
    (done : List StoreOperation)
    (store : Store) : Prop where
  settings_eq : store.settings = settings
  view_eq : store.view = ⟨⟨0, 0⟩, settings.view.radius, none⟩
  here : ∀ planned ∈ plan.columns, planned.creation ∈ done →
    store.columns[planned.pos]? =
    some (.create planned.pos settings.world.sectionCount planned.declared)
  wanted_iff : ∀ place, place ∈ store.wanted ↔
    ∃ planned ∈ plan.columns, planned.request settings.world ∈ done ∧
      planned.Lacks settings.world place
  idle : ∀ place, place ∉ store.inFlight
  waits : store.dirty.Waiting []

variable {settings : Settings} {plan : SessionPlan settings} {store : Store}

theorem prepared_create
    (plan : SessionPlan settings)
    (converter : Converter) :
    (create settings converter).Prepared plan [] where
  settings_eq := rfl
  view_eq := rfl
  here := fun _ _ impossible => absurd impossible List.not_mem_nil
  wanted_iff := by
    intro place
    constructor
    · exact fun impossible => absurd impossible Std.TreeSet.not_mem_emptyc
    · rintro ⟨_, _, impossible, _⟩
      exact absurd impossible List.not_mem_nil
  idle := fun _ => Std.TreeSet.not_mem_emptyc
  waits := .empty

section

variable
    {done : List StoreOperation}
    (prepared : store.Prepared plan done)
    {planned : PlannedColumn}
    (member : planned ∈ plan.columns)
include prepared member

theorem Prepared.renders : store.view.renders planned.pos = true := by
  rw [prepared.view_eq]
  exact plan.inside planned member

theorem Prepared.loads : store.view.loads planned.pos = true := by
  rw [ViewWindow.loads, prepared.renders member, Bool.true_or]

theorem Prepared.creation :
    (store.perform planned.creation).1.Prepared plan
      (done ++ [planned.creation]) := by
  have created : (store.perform planned.creation).1 =
      { store.forgetDerived planned.pos with
        columns := store.columns.insert planned.pos
          (.create planned.pos store.sectionCount planned.declared) } :=
    createColumn_of_renders (prepared.renders member) planned.declared
  rw [created]
  exact {
    settings_eq := prepared.settings_eq
    view_eq := prepared.view_eq
    here := by
      intro other known started
      rw [Std.TreeMap.getElem?_insert]
      split
      · next same =>
          obtain rfl :=
            SessionPlan.eq_of_pos_eq member known
              (Std.LawfulEqCmp.eq_of_compare same)
          rw [sectionCount, prepared.settings_eq]
      · next apart =>
          rcases List.mem_append.1 started with before | now
          · exact prepared.here other known before
          · injection List.mem_singleton.1 now with same
            rw [same] at apart
            exact absurd Std.ReflCmp.compare_self apart
    wanted_iff := by
      have unasked : ∀ other : PlannedColumn,
          other.request settings.world ∈ done ++ [planned.creation] ↔
            other.request settings.world ∈ done := by
        intro other
        rw [List.mem_append, List.mem_singleton]
        refine or_iff_left fun impossible => ?_
        cases impossible
      simp only [unasked]
      exact prepared.wanted_iff
    idle := prepared.idle
    waits := prepared.waits.remove planned.pos }

theorem Prepared.request :
    (store.perform (planned.request settings.world)).1.Prepared plan
      (done ++ [planned.request settings.world]) := by
  have wanted := PlannedColumn.mem_wanted_request_iff (prepared.loads member)
    (plan.declared_le planned member)
  have frame : (store.perform (planned.request settings.world)).1 =
      { store with
        wanted :=
          (store.perform (planned.request settings.world)).1.wanted } :=
    store.wantRange_eq planned.pos _ _
  exact {
    settings_eq := by rw [frame, prepared.settings_eq]
    view_eq := by rw [frame, prepared.view_eq]
    here := by
      intro other known started
      rw [frame]
      rcases List.mem_append.1 started with before | now
      · exact prepared.here other known before
      · cases List.mem_singleton.1 now
    wanted_iff := by
      intro place
      rw [wanted, prepared.wanted_iff]
      constructor
      · rintro (⟨other, known, asked, lacks⟩ | lacks)
        · exact ⟨other, known, List.mem_append_left _ asked, lacks⟩
        · exact ⟨planned, member,
            List.mem_append_right _ (List.mem_singleton_self _), lacks⟩
      · rintro ⟨other, known, asked, lacks⟩
        rcases List.mem_append.1 asked with before | now
        · exact Or.inl ⟨other, known, before, lacks⟩
        · injection List.mem_singleton.1 now with same
          obtain rfl := SessionPlan.eq_of_pos_eq known member same
          exact Or.inr lacks
    idle := by
      rw [frame]
      exact prepared.idle
    waits := by
      rw [frame]
      exact prepared.waits }

end

/-- Whatever the order, a plan that is carried out leaves the store prepared. -/
theorem prepared_run
    (plan : SessionPlan settings)
    (converter : Converter)
    {setup : List StoreOperation}
    (planned : ∀ operation ∈ setup, operation ∈ plan.operations) :
    ((create settings converter).run setup).Prepared plan setup := by
  induction setup using List.reverseRecOn with
  | nil => exact prepared_create plan converter
  | append_singleton setup operation ih =>
      have sofar :=
        ih fun other member => planned other (List.mem_append_left _ member)
      have last :=
        planned operation
          (List.mem_append_right _ (List.mem_singleton_self _))
      obtain ⟨column, member, part⟩ := List.mem_flatMap.1 last
      rw [run_append]
      rcases List.mem_pair.1 part with rfl | rfl
      · exact sofar.creation member
      · exact sofar.request member

end Store

/-! ## Filling columns -/

/-- A column of a plan of which some sections were delivered. -/
structure PlannedColumn.Filled
    (planned : PlannedColumn)
    (world : WorldSettings)
    (delivered : List SectionPos)
    (column : Column) : Prop where
  pos_eq : column.pos = planned.pos
  size_eq : column.sections.size = world.sectionCount
  awaiting_iff : ∀ slot content, column.section? slot = some content →
    (content.isAwaiting = true ↔
      planned.declared ≤ slot ∧ planned.pos.sectionIn world slot ∉ delivered)

namespace PlannedColumn

variable
    {planned : PlannedColumn}
    {world : WorldSettings}
    {delivered : List SectionPos}
    {column : Column}

theorem filled_create
    (planned : PlannedColumn)
    (world : WorldSettings) :
    planned.Filled world []
      (.create planned.pos world.sectionCount planned.declared) where
  pos_eq := rfl
  size_eq := by rw [Column.create, Array.size_map, Array.size_range]
  awaiting_iff := by
    intro slot content found
    rw [Column.section?, Column.create, Array.getElem?_map,
      Array.getElem?_range] at found
    split at found
    · obtain rfl := Option.some_inj.1 found
      dsimp only
      split
      · next low =>
          exact iff_of_false Bool.false_ne_true fun high =>
            absurd low (Nat.not_lt.2 high.1)
      · next high =>
            exact iff_of_true rfl ⟨Nat.not_lt.1 high, List.not_mem_nil⟩
    · cases found

theorem Filled.lt_of_section?
    (filled : planned.Filled world delivered column)
    {slot : Nat}
    {content : Section}
    (found : column.section? slot = some content) :
    slot < world.sectionCount := by
  rw [← filled.size_eq]
  exact (Array.getElem?_eq_some_iff.1 found).1

/-- A delivery for another column does not matter. -/
theorem Filled.of_column_ne
    (filled : planned.Filled world delivered column)
    {place : SectionPos}
    (apart : place.column ≠ planned.pos) :
    planned.Filled world (place :: delivered) column where
  pos_eq := filled.pos_eq
  size_eq := filled.size_eq
  awaiting_iff := by
    intro slot content found
    have other : planned.pos.sectionIn world slot ≠ place := by
      rintro rfl
      exact apart rfl
    rw [filled.awaiting_iff slot content found, List.mem_cons,
      or_iff_right other]

/-- A section that is lacking, once it is delivered, awaits nothing any more. -/
theorem Filled.fill
    (filled : planned.Filled world delivered column)
    {slot : Nat}
    (high : planned.declared ≤ slot)
    (inside : slot < world.sectionCount)
    (undelivered : planned.pos.sectionIn world slot ∉ delivered)
    (content : Section)
    (sourceAir : UInt32)
    (entities : List SourceEntity) :
    planned.Filled world (planned.pos.sectionIn world slot :: delivered)
      (column.fill slot content sourceAir entities) where
  pos_eq :=
    (column.pos_fill slot content sourceAir entities).trans filled.pos_eq
  size_eq := by
    rw [Column.fill_eq, Column.modifySection, Array.size_modify,
      Column.sections_foldl_putEntity, filled.size_eq]
  awaiting_iff := by
    intro place after found
    rw [Column.fill_eq, Column.section?, Column.modifySection,
      Array.getElem?_modify, Column.sections_foldl_putEntity] at found
    split at found
    · next same =>
        subst same
        obtain ⟨before, known, rfl⟩ := Option.map_eq_some_iff.1 found
        have awaiting :=
          (filled.awaiting_iff slot before known).2 ⟨high, undelivered⟩
        obtain ⟨log, pending⟩ := Option.isSome_iff_exists.1 awaiting
        rw [Section.isAwaiting, Section.pending_filledBy pending]
        exact iff_of_false Bool.false_ne_true fun still =>
          still.2 List.mem_cons_self
    · next apart =>
        have other : planned.pos.sectionIn world place ≠
            planned.pos.sectionIn world slot := by
          intro same
          have below := filled.lt_of_section? found
          exact apart (ColumnPos.sectionIn_inj below.le inside.le same).2.symm
        rw [filled.awaiting_iff place after found, List.mem_cons,
          or_iff_right other]

end PlannedColumn

/-- A section that is delivered, with its records. -/
structure Delivery where
  pos : SectionPos
  content : Section
  entities : List SourceEntity

namespace Store

/-- The store after deliveries, and what became of each. -/
def deliver (store : Store) :
    List Delivery → Store × List (Except MergeError Unit)
  | [] => (store, [])
  | delivery :: rest =>
      let outcome :=
        store.mergeSection delivery.pos delivery.content delivery.entities
      let later := outcome.store.deliver rest
      (later.1, outcome.value :: later.2)

/-- A store that has asked for all that a plan lacks, and got some of it. -/
structure Filling
    {settings : Settings}
    (plan : SessionPlan settings)
    (delivered : List SectionPos)
    (store : Store) : Prop where
  settings_eq : store.settings = settings
  view_eq : store.view = ⟨⟨0, 0⟩, settings.view.radius, none⟩
  filled : ∀ planned ∈ plan.columns, ∃ column,
    store.columns[planned.pos]? = some column ∧
    planned.Filled settings.world delivered column
  unwanted : ∀ place, place ∉ store.wanted
  inFlight_iff : ∀ place, place ∈ store.inFlight ↔
    plan.Lacks place ∧ place ∉ delivered
  lined : store.dirty.Lined
  due_iff : ∀ pos, store.isDirty pos = true ↔
    ∃ place ∈ delivered, place.column = pos

variable {settings : Settings} {plan : SessionPlan settings} {store : Store}

/-- Once a plan is carried out, a tick asks for exactly what it lacks. -/
theorem Prepared.mem_asked_iff
    {setup : List StoreOperation}
    (prepared : store.Prepared plan setup)
    (complete : ∀ operation ∈ plan.operations, operation ∈ setup)
    (cache : LightCache)
    (place : SectionPos) :
    place ∈ Message.asked (store.tick cache true).1.messages ↔
      plan.Lacks place := by
  rw [asked_tick, if_pos rfl, mem_wantedInside_iff, prepared.wanted_iff]
  constructor
  · rintro ⟨⟨planned, member, -, lacks⟩, -⟩
    exact ⟨planned, member, lacks⟩
  · rintro ⟨planned, member, lacks⟩
    refine ⟨⟨planned, member, complete _ ?_, lacks⟩, ?_⟩
    · exact List.mem_flatMap.2 ⟨planned, member, List.mem_pair.2 (Or.inr rfl)⟩
    · exact lacks.column_eq ▸ prepared.loads member

theorem Prepared.filling_tick
    {setup : List StoreOperation}
    (prepared : store.Prepared plan setup)
    (complete : ∀ operation ∈ plan.operations, operation ∈ setup)
    (cache : LightCache) :
    (store.tick cache true).1.store.Filling plan [] := by
  have idle : store.Due [] :=
    ⟨prepared.waits, fun _ impossible => absurd impossible List.not_mem_nil⟩
  obtain ⟨rest, all, -, due, same⟩ := idle.tick cache true
  obtain ⟨-, rfl⟩ := List.append_eq_nil_iff.1 all.eq_nil
  exact {
    settings_eq := same.settings_eq.trans prepared.settings_eq
    view_eq := same.view_eq.trans prepared.view_eq
    filled := by
      intro planned member
      have started := complete planned.creation
        (List.mem_flatMap.2 ⟨planned, member, List.mem_pair.2 (Or.inl rfl)⟩)
      rw [same.columns_eq]
      exact ⟨_, prepared.here planned member started,
        planned.filled_create settings.world⟩
    unwanted := by
      intro place
      rw [wanted_tick_of_spawned]
      exact Std.TreeSet.not_mem_emptyc
    inFlight_iff := by
      intro place
      rw [mem_inFlight_tick_iff, or_iff_right (prepared.idle place),
        prepared.mem_asked_iff complete]
      exact (and_iff_left List.not_mem_nil).symm
    lined := due.waits.lined
    due_iff := by
      intro pos
      rw [isDirty, due.waits.contains_iff]
      refine iff_of_false List.not_mem_nil ?_
      rintro ⟨_, impossible, _⟩
      exact List.not_mem_nil impossible }

namespace Filling

variable
    {delivered : List SectionPos}
    (filling : store.Filling plan delivered)
include filling

theorem loads
    {planned : PlannedColumn}
    (member : planned ∈ plan.columns) :
    store.view.loads planned.pos = true := by
  rw [filling.view_eq, ViewWindow.loads, plan.inside planned member,
    Bool.true_or]

/--
What is lacking and was not delivered goes to its slot, if its shape is right.
-/
theorem merge
    {place : SectionPos}
    (lacks : plan.Lacks place)
    (undelivered : place ∉ delivered)
    {content : Section}
    (shape : content.checkShape = .ok ())
    (entities : List SourceEntity) :
    let outcome := store.mergeSection place content entities
    outcome.value = .ok () ∧
      outcome.store.Filling plan (place :: delivered) := by
  intro outcome
  obtain ⟨planned, member, slot, high, inside, rfl⟩ := id lacks
  obtain ⟨column, here, filled⟩ := filling.filled planned member
  have asked := (filling.inFlight_iff _).2 ⟨lacks, undelivered⟩
  have loaded : store.isLoaded planned.pos = true := by
    rw [isLoaded, column?, if_pos (filling.loads member), here]
    rfl
  have accepted := accept_eq_ok asked loaded
    (slot?_sectionIn (congrArg Settings.world filling.settings_eq) planned.pos
      inside) shape
  obtain ⟨taken, landed⟩ := mergeSection_of_accept accepted entities
  refine ⟨taken, ?_⟩
  rw [show outcome.store = _ from landed]
  exact {
    settings_eq := filling.settings_eq
    view_eq := filling.view_eq
    filled := by
      intro other known
      simp only [Std.TreeMap.getElem?_modify, Std.compare_eq_iff_eq]
      split
      · next same =>
          obtain rfl := SessionPlan.eq_of_pos_eq member known same
          refine ⟨_, congrArg (Option.map _) here, ?_⟩
          exact filled.fill high inside undelivered _ _ _
      · next apart =>
          obtain ⟨column, there, filled⟩ := filling.filled other known
          exact ⟨column, there, filled.of_column_ne apart⟩
    unwanted := filling.unwanted
    inFlight_iff := by
      intro other
      rw [Std.TreeSet.mem_erase, filling.inFlight_iff, List.mem_cons, not_or,
        ne_eq, Std.compare_eq_iff_eq, @eq_comm _ _ other]
      exact and_left_comm
    lined := filling.lined.push _
    due_iff := by
      intro pos
      rw [isDirty, ColumnQueue.contains_push_iff, List.exists_mem_cons_iff,
        @eq_comm _ pos]
      exact or_congr_right (filling.due_iff pos) }

/--
Deliveries of what is lacking are all taken in, in whatever order they come.
-/
theorem deliver
    {deliveries : List Delivery}
    (lacks : ∀ delivery ∈ deliveries, plan.Lacks delivery.pos)
    (once : (deliveries.map Delivery.pos).Nodup)
    (undelivered : ∀ delivery ∈ deliveries, delivery.pos ∉ delivered)
    (shapes : ∀ delivery ∈ deliveries, delivery.content.checkShape = .ok ()) :
    (∀ value ∈ (store.deliver deliveries).2, value = .ok ()) ∧
      (store.deliver deliveries).1.Filling plan
        ((deliveries.map Delivery.pos).reverse ++ delivered) := by
  induction deliveries generalizing store delivered with
  | nil =>
      exact ⟨fun _ impossible => absurd impossible List.not_mem_nil, filling⟩
  | cons delivery rest ih =>
      rw [List.forall_mem_cons] at lacks undelivered shapes
      rw [List.map_cons, List.nodup_cons] at once
      obtain ⟨taken, after⟩ :=
        filling.merge lacks.1 undelivered.1 shapes.1 delivery.entities
      have apart : ∀ later ∈ rest, later.pos ∉ delivery.pos :: delivered := by
        intro later member
        rw [List.mem_cons, not_or]
        refine ⟨?_, undelivered.2 later member⟩
        intro same
        exact once.1 (same ▸ List.mem_map_of_mem member)
      obtain ⟨others, done⟩ := ih after lacks.2 once.2 apart shapes.2
      refine ⟨List.forall_mem_cons.2 ⟨taken, others⟩, ?_⟩
      rw [List.map_cons, List.reverse_cons, List.append_assoc]
      exact done

/-! ### When everything is there -/

variable (complete : ∀ place, plan.Lacks place ↔ place ∈ delivered)
include complete

theorem isAwaiting_eq_false
    {planned : PlannedColumn}
    (member : planned ∈ plan.columns) :
    ∃ column, store.column? planned.pos = some column ∧
      column.sections.size = settings.world.sectionCount ∧
      ∀ content ∈ column.sections, content.isAwaiting = false := by
  obtain ⟨column, here, filled⟩ := filling.filled planned member
  refine ⟨column, (if_pos (filling.loads member)).trans here, filled.size_eq,
    ?_⟩
  intro content within
  obtain ⟨slot, found⟩ := Array.mem_iff_getElem?.1 within
  rw [Bool.eq_false_iff, ne_eq, filled.awaiting_iff slot content found]
  rintro ⟨high, missing⟩
  exact missing
    ((complete _).1
      ⟨planned, member, slot, high, filled.lt_of_section? found, rfl⟩)

theorem idle (place : SectionPos) :
    place ∉ store.wanted ∧ place ∉ store.inFlight := by
  refine ⟨filling.unwanted place, ?_⟩
  rw [filling.inFlight_iff, complete]
  exact fun contradiction => contradiction.2 contradiction.1

theorem due_incomplete : store.Due plan.incomplete where
  waits := {
    lined := filling.lined
    nodup := SessionPlan.nodup_incomplete
    contains_iff := by
      intro pos
      rw [SessionPlan.mem_incomplete_iff]
      simp only [complete]
      exact filling.due_iff pos }
  shown := by
    intro pos member
    obtain ⟨planned, known, rfl⟩ := List.mem_map.1 member
    have known := List.mem_of_mem_filter known
    obtain ⟨column, here, filled⟩ := filling.filled planned known
    exact ⟨column, (if_pos (filling.loads known)).trans here, filled.pos_eq⟩

end Filling

/-! ## A session -/

/--
Columns within the window of a fresh store are started, and their lacking
sections are asked for, in any order; a tick sends the requests, and one answer
of the right shape comes for each position asked for, in any order.  Then every
answer is taken in, nothing is awaited, wanted or under way any more, exactly
the columns that lacked sections are due, and the ticks that follow show each
of them once.
-/
theorem session_fills_columns
    {settings : Settings}
    (plan : SessionPlan settings)
    (converter : Converter)
    (budget : 1 ≤ settings.scheduler.columnsPerTick)
    {setup : List StoreOperation}
    (carriedOut : setup.Perm plan.operations)
    (cache : LightCache)
    {deliveries : List Delivery}
    (answers : (deliveries.map Delivery.pos).Perm
      (Message.asked
        (((create settings converter).run setup).tick cache true).1.messages))
    (shapes : ∀ delivery ∈ deliveries, delivery.content.checkShape = .ok ()) :
    let asked :=
      (((create settings converter).run setup).tick cache true).1.store
    let filled := (asked.deliver deliveries).1
    (∀ value ∈ (asked.deliver deliveries).2, value = .ok ()) ∧
      (∀ planned ∈ plan.columns, ∃ column,
        filled.column? planned.pos = some column ∧
        column.sections.size = settings.world.sectionCount ∧
        ∀ content ∈ column.sections, content.isAwaiting = false) ∧
      (∀ place, place ∉ filled.wanted ∧ place ∉ filled.inFlight) ∧
      (∀ pos, filled.isDirty pos = true ↔ pos ∈ plan.incomplete) ∧
      ∀ rounds : List (LightCache × Bool),
        (∃ rest, (Message.shown (filled.history (ticks rounds)) ++ rest).Perm
          plan.incomplete ∧
          rest.length =
            plan.incomplete.length -
              rounds.length * settings.scheduler.columnsPerTick) ∧
        (plan.incomplete.length ≤ rounds.length →
          (Message.shown (filled.history (ticks rounds))).Perm
            plan.incomplete) := by
  intro asked filled
  have prepared :=
    prepared_run plan converter fun operation member =>
      carriedOut.subset member
  have complete : ∀ operation ∈ plan.operations, operation ∈ setup :=
    fun operation member => carriedOut.symm.subset member
  have lacks : ∀ place, place ∈ deliveries.map Delivery.pos ↔
      plan.Lacks place := fun place =>
        answers.mem_iff.trans (prepared.mem_asked_iff complete cache place)
  obtain ⟨taken, filling⟩ := (prepared.filling_tick complete cache).deliver
    (fun delivery member => (lacks _).1 (List.mem_map_of_mem member))
    (answers.nodup_iff.2 (nodup_asked_tick _ _ _))
      (fun _ _ => List.not_mem_nil) shapes
  have all : ∀ place, plan.Lacks place ↔
      place ∈ (deliveries.map Delivery.pos).reverse ++ [] := by
    intro place
    rw [List.append_nil, List.mem_reverse, lacks]
  have due := filling.due_incomplete all
  refine ⟨taken, fun planned member =>
    filling.isAwaiting_eq_false all member, filling.idle all,
      due.waits.contains_iff, fun rounds => ?_⟩
  obtain ⟨rest, shown, left, -⟩ := due.ticks rounds
  rw [filling.settings_eq] at left
  refine ⟨⟨rest, shown, left⟩, fun enough => ?_⟩
  have worked : rounds.length ≤
      rounds.length * settings.scheduler.columnsPerTick :=
    Nat.le_mul_of_pos_right _ budget
  obtain rfl : rest = [] := List.eq_nil_of_length_eq_zero (by omega)
  rwa [List.append_nil] at shown

/-- A world of two sections, the lower one below zero. -/
def lowSettings : Settings := { Settings.standard with world := ⟨-16, 32⟩ }

/--
A column that lacks both sections, one that lacks the upper one, and one that
lacks none.
-/
def lowPlan : SessionPlan lowSettings where
  columns := [⟨⟨0, 0⟩, 0⟩, ⟨⟨-1, 1⟩, 1⟩, ⟨⟨1, 0⟩, 2⟩]
  distinct := by decide
  inside := by decide
  declared_le := by decide

/-- One answer for each lacking section. -/
def lowDeliveries : List Delivery :=
  [⟨⟨0, 0, 0⟩, .filled 0, []⟩, ⟨⟨-1, 0, 1⟩, .filled 0, []⟩,
    ⟨⟨0, -1, 0⟩, .filled 0, []⟩]

theorem session_fills_low_columns :
    let setup := lowPlan.operations.reverse
    let cache := LightCache.create 0 none
    let tick :=
      (((create lowSettings bareConverter).run setup).tick cache true).1
    1 ≤ lowSettings.scheduler.columnsPerTick ∧ setup.Perm lowPlan.operations ∧
      (lowDeliveries.map Delivery.pos).Perm (Message.asked tick.messages) ∧
      (∀ delivery ∈ lowDeliveries, delivery.content.checkShape = .ok ()) ∧
      let filled := (tick.store.deliver lowDeliveries).1
      (∀ value ∈ (tick.store.deliver lowDeliveries).2, value = .ok ()) ∧
        (∀ planned ∈ lowPlan.columns, ∃ column,
          filled.column? planned.pos = some column ∧
          column.sections.size = lowSettings.world.sectionCount ∧
          ∀ content ∈ column.sections, content.isAwaiting = false) ∧
        (∀ place, place ∉ filled.wanted ∧ place ∉ filled.inFlight) ∧
        (∀ pos, filled.isDirty pos = true ↔ pos ∈ lowPlan.incomplete) ∧
        (Message.shown
          (filled.history (ticks [(cache, true), (cache, false)]))).Perm
          [⟨0, 0⟩, ⟨-1, 1⟩] := by
  -- The stores are written out, so that no step compares two ways to compute
  -- one.
  have budget : 1 ≤ lowSettings.scheduler.columnsPerTick := by decide
  have carriedOut : lowPlan.operations.reverse.Perm lowPlan.operations :=
    List.reverse_perm _
  have answers : (lowDeliveries.map Delivery.pos).Perm
      (Message.asked
        (((create lowSettings bareConverter).run
            lowPlan.operations.reverse).tick (.create 0 none)
            true).1.messages) := by decide +kernel
  have shapes : ∀ delivery ∈ lowDeliveries,
      delivery.content.checkShape = .ok () := by
    intro delivery member
    simp only [lowDeliveries, List.mem_cons, List.not_mem_nil, or_false]
      at member
    obtain rfl | rfl | rfl := member <;> exact Section.checkShape_filled 0
  obtain ⟨taken, filled, idle, due, shown⟩ :=
    session_fills_columns lowPlan bareConverter budget carriedOut _
      answers shapes
  have incomplete : lowPlan.incomplete = [⟨0, 0⟩, ⟨-1, 1⟩] := by
    decide +kernel
  have few : lowPlan.incomplete.length ≤ 2 := by
    rw [incomplete]
    rfl
  exact ⟨budget, carriedOut, answers, shapes, taken, filled, idle, due,
    incomplete ▸ (shown _).2 few⟩

end Store

end VoxelRelay
