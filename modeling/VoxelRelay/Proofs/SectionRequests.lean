import Mathlib.Data.List.Induction
import Mathlib.Data.List.Infix
import VoxelRelay.Proofs.StoreFrames
import VoxelRelay.Proofs.TickMessages

/-!
# Sections asked for and sections delivered

A section comes under way when a tick asks for it, and every delivery of it
ends that, whether the content is taken in or refused for another reason.
Nothing else matters: neither columns that come and go nor moves of the window
touch what is under way.  So there are never more deliveries that count as
requested than requests, and a delivery counts as requested exactly when the
section was asked for since it was last delivered.

What is under way is a set.  A section that is asked for again while it is
under way is under way once, and of two answers the second is refused.
-/

namespace VoxelRelay

theorem Section.checkShape_filled (id : UInt32) :
    (filled id).checkShape = .ok () := by
  simp [checkShape, filled, maxLayers, Palette.edge, Palette.blocks,
    Palette.filled, Palette.blockEdgeBits, sectionEdge]

/-- A section is delivered. -/
def StoreOperation.delivers (pos : SectionPos) : StoreOperation → Bool
  | .mergeSection other _ _ => other = pos
  | _ => false

namespace Store

/-- A section is delivered, and not refused for want of a request. -/
def admits
    (store : Store)
    (pos : SectionPos) : StoreOperation → Bool
  | .mergeSection other content entities =>
      other =
        pos && match (store.mergeSection other content entities).value with
        | .error (.notRequested _) => false
        | _ => true
  | _ => false

/-- How often a section is delivered during a list of operations. -/
def timesDelivered
    (pos : SectionPos)
    (operations : List StoreOperation) : Nat :=
  operations.countP (·.delivers pos)

/-- How often a section is asked for during a list of operations. -/
def timesAsked
    (store : Store)
    (pos : SectionPos)
    (operations : List StoreOperation) : Nat :=
  (Message.asked (store.history operations)).count pos

/--
How often a section is delivered without being refused for want of a request.
-/
def timesAdmitted
    (store : Store)
    (pos : SectionPos) : List StoreOperation → Nat
  | [] => 0
  | operation :: rest =>
      (if store.admits pos operation then 1 else 0) +
        (store.perform operation).1.timesAdmitted pos rest

/-! ## Deliveries -/

/--
A delivery is refused for want of a request exactly when its section is not
under way.
-/
theorem value_mergeSection_eq_notRequested_iff
    (store : Store)
    (pos refused : SectionPos)
    (content : Section)
    (entities : List SourceEntity) :
    (store.mergeSection pos content entities).value =
      .error (.notRequested refused) ↔
      refused = pos ∧ pos ∉ store.inFlight := by
  have refusal : (store.mergeSection pos content entities).value =
    .error (.notRequested refused) ↔
      store.accept pos content = .error (.notRequested refused) := by
    unfold mergeSection
    simp only
    split
    · next refusal known => rw [known]; simp
    · next slot known => rw [known]; simp
  rw [refusal, accept, ← Std.TreeSet.contains_iff_mem]
  cases store.inFlight.contains pos with
  | false => simp [eq_comm]
  | true =>
      simp only [Bool.not_true, Bool.false_eq_true, if_false,
        not_true_eq_false, and_false, iff_false]
      split
      · simp
      · split
        · simp
        · split
          · simp
          · simp

/-- A section that is under way goes to its slot, if its shape is right. -/
theorem accept_eq_ok
    {store : Store}
    {pos : SectionPos}
    {content : Section}
    {slot : Nat}
    (asked : pos ∈ store.inFlight)
    (loaded : store.isLoaded pos.column = true)
    (inside : store.slot? pos.y = some slot)
    (shape : content.checkShape = .ok ()) :
    store.accept pos content = .ok slot := by
  rw [accept, Std.TreeSet.contains_iff_mem.2 asked, loaded, inside, shape]
  rfl

/--
A section that is taken in fills its slot, and its column is due to be sent.
-/
theorem mergeSection_of_accept
    {store : Store}
    {pos : SectionPos}
    {content : Section}
    {slot : Nat}
    (accepted : store.accept pos content = .ok slot)
    (entities : List SourceEntity) :
    (store.mergeSection pos content entities).value = .ok () ∧
      (store.mergeSection pos content entities).store =
        { store with
          inFlight := store.inFlight.erase pos
          columns := store.columns.modify pos.column
            (·.fill slot (content.normalize store.table)
              store.table.sourceAir entities)
          dirty := store.dirty.push pos.column } := by
  simp only [mergeSection, accepted, true_and]
  rfl

theorem admits_iff
    (store : Store)
    (pos : SectionPos)
    (operation : StoreOperation) :
    store.admits pos operation = true ↔
      operation.delivers pos = true ∧ pos ∈ store.inFlight := by
  cases operation with
  | mergeSection other content entities =>
      simp only [admits, StoreOperation.delivers, Bool.and_eq_true,
        decide_eq_true_eq]
      apply and_congr_right
      rintro rfl
      split
      · next refused known =>
          rw [value_mergeSection_eq_notRequested_iff] at known
          simp [known.2]
      · next admitted =>
          simp only [true_iff]
          by_contra absent
          exact admitted other
            ((store.value_mergeSection_eq_notRequested_iff _ _ _ _).2
              ⟨rfl, absent⟩)
  | _ => simp [admits, StoreOperation.delivers]

/-! ## What an operation does to what is under way -/

theorem inFlight_createColumn
    (store : Store)
    (pos : ColumnPos)
    (declared : Nat) :
    (store.createColumn pos declared).store.inFlight = store.inFlight ∧
      Message.asked (store.createColumn pos declared).messages = [] := by
  unfold createColumn
  split
  · simp only
    split
    · exact ⟨rfl, rfl⟩
    · refine ⟨rfl, ?_⟩
      simp only [recenterMessages]
      split <;> rfl
  · exact ⟨rfl, rfl⟩

theorem inFlight_unloadColumn
    (store : Store)
    (pos : ColumnPos) :
    (store.unloadColumn pos).store.inFlight = store.inFlight ∧
      Message.asked (store.unloadColumn pos).messages = [] := by
  unfold unloadColumn
  split
  · exact ⟨rfl, rfl⟩
  · exact ⟨rfl, rfl⟩

theorem inFlight_unloadAll
    (store : Store)
    (positions : List ColumnPos) :
    (store.unloadAll positions).1.inFlight = store.inFlight ∧
      Message.asked (store.unloadAll positions).2 = [] := by
  apply unloadAll_induction
    (fun after told =>
      after.inFlight = store.inFlight ∧ Message.asked told = [])
  · rintro after told pos ⟨sofar, silent⟩
    obtain ⟨kept, quiet⟩ := after.inFlight_unloadColumn pos
    refine ⟨kept.trans sofar, ?_⟩
    rw [Message.asked_append, silent, quiet, List.append_nil]
  · exact ⟨rfl, rfl⟩

theorem asked_changeBlock
    (store : Store)
    (pos : BlockPos)
    (layer : Nat)
    (source : UInt32) :
    Message.asked (store.changeBlock pos layer source).messages = [] := by
  apply Message.asked_eq_nil
  intro message member
  rw [store.messages_changeBlock pos layer source message member]
  rfl

/--
A section is under way after an operation if it was before and was not
delivered, or if it was asked for; and what is delivered is not asked for.
-/
theorem mem_inFlight_perform_iff
    (store : Store)
    (operation : StoreOperation)
    (pos : SectionPos) :
    pos ∈ (store.perform operation).1.inFlight ↔
      (pos ∈ store.inFlight ∧ operation.delivers pos = false) ∨
        pos ∈ Message.asked (store.perform operation).2 := by
  have quiet : ∀ {after : Store} {messages : List Message},
      after.inFlight = store.inFlight ∧ Message.asked messages = [] →
      (pos ∈ after.inFlight ↔ (pos ∈ store.inFlight ∧ false = false) ∨
        pos ∈ Message.asked messages) := by
    rintro after messages ⟨same, silent⟩
    simp [same, silent]
  cases operation with
  | createColumn other declared =>
      exact quiet (store.inFlight_createColumn other declared)
  | unloadColumn other => exact quiet (store.inFlight_unloadColumn other)
  | setCenter center =>
      exact quiet (inFlight_unloadAll { store with view := _ } _)
  | setRadius radius =>
      exact quiet (inFlight_unloadAll { store with view := _ } _)
  | setPlayer player => exact quiet ⟨rfl, rfl⟩
  | markDirty other => exact quiet ⟨rfl, rfl⟩
  | want other =>
      exact quiet ⟨(congrArg inFlight (store.want_eq other) :), rfl⟩
  | wantRange other first last =>
      exact quiet
        ⟨(congrArg inFlight (store.wantRange_eq other first last) :), rfl⟩
  | changeBlock other layer source =>
      exact quiet
        ⟨(congrArg inFlight (store.changeBlock_eq other layer source) :),
        store.asked_changeBlock other layer source⟩
  | addEntity entity =>
      exact quiet
        ⟨(congrArg inFlight (store.modifyColumn_eq entity.position.column _)
            :), rfl⟩
  | tick cache spawned =>
      refine (store.mem_inFlight_tick_iff cache spawned pos).trans
        (or_congr_left ?_)
      exact (and_iff_left rfl).symm
  | mergeSection other content entities =>
      obtain ⟨frame, silent⟩ := store.mergeSection_eq other content entities
      have erased :
          (store.perform (.mergeSection other content entities)).1.inFlight =
          store.inFlight.erase other := congrArg inFlight frame
      have unasked :
          (store.perform (.mergeSection other content entities)).2 = [] :=
            silent
      rw [erased, unasked, Std.TreeSet.mem_erase]
      simp [Message.asked, StoreOperation.delivers, and_comm]

/-- A section that was just delivered is not under way. -/
theorem not_mem_inFlight_run_delivery
    (store : Store)
    (pos : SectionPos)
    (content : Section)
    (entities : List SourceEntity) :
    pos ∉ (store.run [.mergeSection pos content entities]).inFlight := by
  have erased : (store.run [.mergeSection pos content entities]).inFlight =
      store.inFlight.erase pos :=
        congrArg inFlight (store.mergeSection_eq pos content entities).1
  rw [erased, Std.TreeSet.mem_erase]
  exact fun kept => kept.1 Std.ReflCmp.compare_self

theorem asked_perform_of_delivers
    (store : Store)
    {operation : StoreOperation}
    {pos : SectionPos}
    (delivers : operation.delivers pos = true) :
    Message.asked (store.perform operation).2 = [] := by
  cases operation with
  | mergeSection other content entities =>
      exact congrArg Message.asked
        (store.mergeSection_eq other content entities).2
  | _ => cases delivers

/--
An operation that is refused nothing takes one request from what is under way.
-/
theorem admits_add_inFlight_le
    (store : Store)
    (operation : StoreOperation)
    (pos : SectionPos) :
    (if store.admits pos operation then 1 else 0) +
        (if pos ∈ (store.perform operation).1.inFlight then 1 else 0) ≤
      (Message.asked (store.perform operation).2).count pos +
        (if pos ∈ store.inFlight then 1 else 0) := by
  have after := store.mem_inFlight_perform_iff operation pos
  have admitted := store.admits_iff pos operation
  by_cases asked : pos ∈ Message.asked (store.perform operation).2
  · -- What is asked for is not delivered, and is asked for once at least.
    have once := List.count_pos_iff.2 asked
    have notDelivered : ¬ operation.delivers pos = true := by
      intro delivers
      rw [store.asked_perform_of_delivers delivers] at asked
      exact List.not_mem_nil asked
    rw [if_neg fun admits => notDelivered (admitted.1 admits).1]
    split <;> omega
  · have kept : pos ∈ (store.perform operation).1.inFlight ↔
        pos ∈ store.inFlight ∧ operation.delivers pos = false :=
          after.trans (or_iff_left asked)
    by_cases before : pos ∈ store.inFlight
    · cases delivers : operation.delivers pos with
      | true => simp [admitted, kept, before, delivers]
      | false => simp [admitted, kept, before, delivers]
    · simp [admitted, kept, before]

/-! ## Runs -/

/--
What was admitted and what is under way were asked for, or were under way from
the start.
-/
theorem timesAdmitted_add_inFlight_le
    (store : Store)
    (operations : List StoreOperation)
    (pos : SectionPos) :
    store.timesAdmitted pos operations +
        (if pos ∈ (store.run operations).inFlight then 1 else 0) ≤
      store.timesAsked pos operations +
        (if pos ∈ store.inFlight then 1 else 0) := by
  induction operations generalizing store with
  | nil => exact Nat.add_le_add_right (Nat.zero_le _) _
  | cons operation rest ih =>
      have step := store.admits_add_inFlight_le operation pos
      have later := ih (store.perform operation).1
      have asked : store.timesAsked pos (operation :: rest) =
          (Message.asked (store.perform operation).2).count pos +
            (store.perform operation).1.timesAsked pos rest := by
        rw [timesAsked, history, Message.asked_append, List.count_append,
          timesAsked]
      have run : store.run (operation :: rest) =
          (store.perform operation).1.run rest := rfl
      rw [timesAdmitted, asked, run]
      omega

/-- A section was asked for since it was last delivered. -/
def AskedSince
    (store : Store)
    (pos : SectionPos)
    (operations : List StoreOperation) : Prop :=
  ∃ earlier later, operations = earlier ++ later ∧
    pos ∈ Message.asked ((store.run earlier).history later) ∧
    ∀ operation ∈ later, operation.delivers pos = false

/-- A section is never asked for again while an answer is outstanding. -/
def AskedInTurn
    (store : Store)
    (pos : SectionPos)
    (operations : List StoreOperation) : Prop :=
  ∀ sofar, sofar <+: operations →
    store.timesAsked pos sofar ≤ timesDelivered pos sofar + 1

/--
A section is under way once it was asked for and as long as it is not
delivered.
-/
theorem mem_inFlight_run_iff
    (settings : Settings)
    (converter : Converter)
    (operations : List StoreOperation)
    (pos : SectionPos) :
    pos ∈ ((create settings converter).run operations).inFlight ↔
      (create settings converter).AskedSince pos operations := by
  induction operations using List.reverseRecOn with
  | nil =>
      constructor
      · exact fun impossible => absurd impossible Std.TreeSet.not_mem_emptyc
      · rintro ⟨earlier, later, split, asked, -⟩
        obtain ⟨rfl, rfl⟩ := List.append_eq_nil_iff.1 split.symm
        exact absurd asked List.not_mem_nil
  | append_singleton operations operation ih =>
      let start := create settings converter
      have split (earlier later : List StoreOperation)
        (same : operations = earlier ++ later) :
          (start.run earlier).history (later ++ [operation]) =
            (start.run earlier).history later ++
              ((start.run operations).perform operation).2 := by
        rw [history_append, same, run_append, history, history,
          List.append_nil]
      rw [run_append]
      refine ((start.run operations).mem_inFlight_perform_iff operation
        pos).trans ?_
      rw [ih]
      constructor
      · rintro (⟨⟨earlier, later, same, asked, kept⟩, keeps⟩ | asked)
        · refine ⟨earlier, later ++ [operation],
            by rw [same, List.append_assoc], ?_, ?_⟩
          · rw [split earlier later same, Message.asked_append]
            exact List.mem_append_left _ asked
          · intro other member
            rcases List.mem_append.1 member with before | last
            · exact kept other before
            · exact List.mem_singleton.1 last ▸ keeps
        · refine ⟨operations, [operation], rfl, ?_, ?_⟩
          · rwa [history, history, List.append_nil]
          · intro other member
            rw [List.mem_singleton.1 member]
            by_contra delivers
            rw [asked_perform_of_delivers _
              (Bool.eq_true_of_not_eq_false delivers)] at asked
            exact List.not_mem_nil asked
      · rintro ⟨earlier, later, same, asked, kept⟩
        rcases List.eq_nil_or_concat later with rfl | ⟨between, last, rfl⟩
        · exact absurd asked List.not_mem_nil
        · rw [List.concat_eq_append, ← List.append_assoc] at same
          obtain ⟨before, last⟩ := List.append_inj' same rfl
          obtain rfl := List.singleton_inj.1 last
          rw [List.concat_eq_append, split earlier between before,
            Message.asked_append] at asked
          rcases List.mem_append.1 asked with early | late
          · refine Or.inl
              ⟨⟨earlier, between, before, early, ?_⟩,
                kept operation (by simp)⟩
            exact fun other member => kept other (by simp [member])
          · exact Or.inr late

/--
An answer that is outstanding is under way, where the section was asked for in
turn.
-/
theorem mem_inFlight_run_of_askedInTurn
    {store : Store}
    {operations : List StoreOperation}
    {pos : SectionPos}
    (inTurn : store.AskedInTurn pos operations)
    (outstanding : timesDelivered pos operations <
      store.timesAsked pos operations) :
    pos ∈ (store.run operations).inFlight := by
  induction operations using List.reverseRecOn with
  | nil => exact absurd outstanding (Nat.not_lt_zero _)
  | append_singleton operations operation ih =>
      have earlier : store.AskedInTurn pos operations := fun sofar early =>
        inTurn sofar (early.trans (List.prefix_append _ _))
      have bound := earlier operations List.prefix_rfl
      have asked : store.timesAsked pos (operations ++ [operation]) =
          store.timesAsked pos operations +
            (Message.asked ((store.run operations).perform operation).2).count
              pos := by
        rw [timesAsked, history_append, Message.asked_append,
          List.count_append, history, history, List.append_nil, timesAsked]
      have delivered : timesDelivered pos (operations ++ [operation]) =
          timesDelivered pos operations + if operation.delivers
            pos then 1 else 0 := by
        rw [timesDelivered, List.countP_append, List.countP_singleton,
          timesDelivered]
      rw [asked, delivered] at outstanding
      rw [run_append]
      refine ((store.run operations).mem_inFlight_perform_iff operation pos).2
        ?_
      by_cases again :
          pos ∈ Message.asked ((store.run operations).perform operation).2
      · exact Or.inr again
      · rw [List.count_eq_zero.2 again, Nat.add_zero] at outstanding
        cases delivers : operation.delivers pos with
        | true =>
            -- One answer more would be outstanding before this delivery.
            simp only [delivers, if_true] at outstanding
            omega
        | false =>
            simp only [delivers, Bool.false_eq_true, if_false, Nat.add_zero]
              at outstanding
            exact Or.inl ⟨ih earlier outstanding, rfl⟩

/-! ## Every delivery needs a request, and every request admits a delivery -/

/--
Whatever happens to a store, a section is not delivered more often without
being refused for want of a request than it was asked for.
-/
theorem timesAdmitted_le_timesAsked
    (settings : Settings)
    (converter : Converter)
    (operations : List StoreOperation)
    (pos : SectionPos) :
    (create settings converter).timesAdmitted pos operations ≤
      (create settings converter).timesAsked pos operations := by
  have balance :=
    (create settings converter).timesAdmitted_add_inFlight_le operations pos
  have idle : pos ∉ (create settings converter).inFlight :=
    Std.TreeSet.not_mem_emptyc
  rw [if_neg idle] at balance
  omega

/--
A delivery is refused for want of a request exactly when its section was not
asked for since it was last delivered.  So no answer that is outstanding is
refused, where the section is not asked for again while one is.
-/
theorem refused_iff_not_askedSince
    (settings : Settings)
    (converter : Converter)
    (operations : List StoreOperation)
    (pos : SectionPos)
    (content : Section)
    (entities : List SourceEntity) :
    let start := create settings converter
    let outcome := (start.run operations).mergeSection pos content entities
    (outcome.value = .error (.notRequested pos) ↔
      ¬ start.AskedSince pos operations) ∧
      (start.AskedInTurn pos operations →
        timesDelivered pos operations < start.timesAsked pos operations →
        outcome.value ≠ .error (.notRequested pos)) := by
  intro start outcome
  have refused : outcome.value = .error (.notRequested pos) ↔
      pos ∉ (start.run operations).inFlight := by
    rw [value_mergeSection_eq_notRequested_iff, and_iff_right rfl]
  constructor
  · rw [refused, mem_inFlight_run_iff]
  · intro inTurn outstanding
    rw [ne_eq, refused, not_not]
    exact mem_inFlight_run_of_askedInTurn inTurn outstanding

/-- A section is asked for. -/
def asking (pos : SectionPos) : List StoreOperation :=
  [.want pos, .tick (.create 0 none) true]

/-- A section is asked for again once it was delivered, and delivered again. -/
theorem admitted_again_once_asked_again :
    let start := create .standard bareConverter
    let pos : SectionPos := ⟨0, 0, 0⟩
    let operations :=
      asking pos ++ [.mergeSection pos (.filled 0) []] ++ asking pos
    start.AskedInTurn pos operations ∧
      timesDelivered pos operations < start.timesAsked pos operations ∧
      ((start.run operations).mergeSection pos (.filled 0) []).value ≠
        .error (.notRequested pos) := by
  intro start pos operations
  have inTurn : start.AskedInTurn pos operations := by
    intro sofar early
    rw [← List.mem_inits] at early
    revert sofar
    decide
  have outstanding :
      timesDelivered pos operations < start.timesAsked pos operations := by
        decide
  exact ⟨inTurn, outstanding,
    (refused_iff_not_askedSince .standard bareConverter operations pos
      (.filled 0) []).2 inTurn
      outstanding⟩

/-- Of two answers to two requests, the second may be refused. -/
theorem exists_answer_refused :
    let start := create .standard bareConverter
    let pos : SectionPos := ⟨0, 0, 0⟩
    let asked := .createColumn ⟨0, 0⟩ 0 :: asking pos ++ asking pos
    let answer := StoreOperation.mergeSection pos (.filled 0) []
    start.timesAsked pos asked = 2 ∧
    timesDelivered pos (asked ++ [answer]) = 1 ∧
      ((start.run asked).mergeSection pos (.filled 0) []).value = .ok () ∧
      ((start.run (asked ++ [answer])).mergeSection pos (.filled 0)
        []).value =
        .error (.notRequested pos) := by
  intro start pos asked answer
  have taken :
      ((start.run asked).mergeSection pos (.filled 0) []).value = .ok () :=
    (mergeSection_of_accept
      (accept_eq_ok (by decide) (by decide) (show _ = some 4 by decide)
        (Section.checkShape_filled 0)) []).1
  have refused : pos ∉ (start.run (asked ++ [answer])).inFlight := by
    rw [run_append]
    exact (start.run asked).not_mem_inFlight_run_delivery pos (.filled 0) []
  exact ⟨by decide, by decide, taken,
    (value_mergeSection_eq_notRequested_iff _ _ _ _ _).2 ⟨rfl, refused⟩⟩

end Store

end VoxelRelay
