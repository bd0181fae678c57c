import VoxelRelay.Proofs.DerivedState
import VoxelRelay.Proofs.StoreFrames
import VoxelRelay.Proofs.TickSteps

/-!
# The client has the light that the store holds

A store judges by the light it holds whether a column that was lit anew has to
be sent.  So the light it holds for a column has to be the light that the
client was last told, over sends, light updates that are left out, unloads and
columns that are created anew.  And light alone is sent only for a column that
the client has: one that was sent and not forgotten since.
-/

namespace VoxelRelay

namespace Message

/-- The light that a message tells for a column. -/
def lightFor? (pos : ColumnPos) : Message → Option LightPayload
  | .column target payload => if target.pos = pos then some payload else none
  | .light other payload => if other = pos then some payload else none
  | _ => none

/-- The light that a client was last told for a column. -/
def lastLight?
    (pos : ColumnPos)
    (messages : List Message) : Option LightPayload :=
  (messages.filterMap (lightFor? pos)).getLast?

/-- A client has a column: it was sent, and was not forgotten since. -/
def Shown (pos : ColumnPos) (messages : List Message) : Prop :=
  ∃ before target light after,
    messages = before ++ .column target light :: after ∧
    target.pos = pos ∧ .forget pos ∉ after

/-- Light alone is told only for columns that the client has at that time. -/
def UpdatesShown (messages : List Message) : Prop :=
  ∀ before pos light after, messages = before ++ .light pos light :: after →
    Shown pos before

theorem lightFor?_light
    (pos : ColumnPos)
    (light : LightPayload) :
    (Message.light pos light).lightFor? pos = some light :=
  if_pos rfl

theorem lastLight?_concat_of_some
    {pos : ColumnPos}
    {message : Message}
    {light : LightPayload}
    (told : message.lightFor? pos = some light)
    (messages : List Message) :
    lastLight? pos (messages ++ [message]) = some light := by
  simp [lastLight?, told]

theorem lastLight?_append_of_silent
    {pos : ColumnPos}
    {more : List Message}
    (silent : ∀ message ∈ more, message.lightFor? pos = none)
    (messages : List Message) :
    lastLight? pos (messages ++ more) = lastLight? pos messages := by
  have nothing : more.filterMap (lightFor? pos) = [] :=
    List.filterMap_eq_nil_iff.2 silent
  rw [lastLight?, List.filterMap_append, nothing, List.append_nil, lastLight?]

theorem shown_concat
    (messages : List Message)
    (target : TargetColumn)
    (light : LightPayload) :
    Shown target.pos (messages ++ [.column target light]) :=
  ⟨messages, target, light, [], rfl, rfl, List.not_mem_nil⟩

theorem Shown.append
    {pos : ColumnPos}
    {messages : List Message}
    (shown : Shown pos messages)
    {more : List Message}
    (kept : .forget pos ∉ more) :
    Shown pos (messages ++ more) := by
  obtain ⟨before, target, light, after, rfl, same, notForgotten⟩ := shown
  refine ⟨before, target, light, after ++ more, by simp, same, ?_⟩
  rw [List.mem_append]
  exact fun forgotten => forgotten.elim notForgotten kept

/--
After messages that tell no light alone, only earlier updates have to be
looked at.
-/
theorem UpdatesShown.append
    {messages more : List Message}
    (updates : UpdatesShown messages)
    (other : ∀ pos light, .light pos light ∉ more) :
    UpdatesShown (messages ++ more) := by
  intro before pos light after equal
  rcases List.append_eq_append_iff.1 equal with
    ⟨between, -, rest⟩ | ⟨between, rfl, rest⟩
  · refine absurd ?_ (other pos light)
    rw [rest]
    exact List.mem_append_right _ List.mem_cons_self
  · cases between with
    | nil =>
        refine absurd ?_ (other pos light)
        rw [← List.nil_append more, ← rest]
        exact List.mem_cons_self
    | cons message between =>
        rw [List.cons_append, List.cons.injEq] at rest
        obtain ⟨rfl, -⟩ := rest
        exact updates before pos light between rfl

theorem UpdatesShown.concat_light
    {messages : List Message}
    (updates : UpdatesShown messages)
    {pos : ColumnPos}
    (shown : Shown pos messages)
    (light : LightPayload) :
    UpdatesShown (messages ++ [.light pos light]) := by
  intro before other otherLight after equal
  rcases List.eq_nil_or_concat after with rfl | ⟨between, last, rfl⟩
  · obtain ⟨rfl, last⟩ := List.append_inj' equal rfl
    cases last
    exact shown
  · rw [List.concat_eq_append, ← List.cons_append, ← List.append_assoc]
      at equal
    exact updates before other otherLight between
      (List.append_inj' equal rfl).1

end Message

open Message

namespace Store

/-- How a store and the messages that it has sent fit together. -/
structure ToldBy (store : Store) (messages : List Message) : Prop where
  lastLight_eq : ∀ pos light, store.light[pos]? = some light →
    lastLight? pos messages = some (.ofLight light)
  shown : ∀ pos, pos ∈ store.sent → Shown pos messages
  updatesShown : UpdatesShown messages

theorem toldBy_create
    (settings : Settings)
    (converter : Converter) :
    (create settings converter).ToldBy [] where
  lastLight_eq := fun _ _ known => by simp [create] at known
  shown := fun _ sent => absurd sent Std.TreeSet.not_mem_emptyc
  updatesShown := fun before _ _ after impossible => by simp at impossible

/--
Messages without light do not matter while no column is forgotten that still
counts as sent.
-/
theorem ToldBy.append
    {store other : Store}
    {messages more : List Message}
    (told : store.ToldBy messages)
    (silent : ∀ message ∈ more, ∀ pos, message.lightFor? pos = none)
    (light : ∀ (pos : ColumnPos) (light : ColumnLight),
      other.light[pos]? = some light → store.light[pos]? = some light)
    (sent : ∀ pos, pos ∈ other.sent → pos ∈ store.sent ∧ .forget pos ∉ more) :
    other.ToldBy (messages ++ more) where
  lastLight_eq := by
    intro pos content known
    rw [lastLight?_append_of_silent
      (fun message member => silent message member pos)]
    exact told.lastLight_eq pos content (light pos content known)
  shown := by
    intro pos member
    obtain ⟨before, kept⟩ := sent pos member
    exact (told.shown pos before).append kept
  updatesShown := by
    apply told.updatesShown.append
    intro pos payload member
    have loud := silent _ member pos
    rw [lightFor?_light] at loud
    cases loud

/-- Messages about other things than columns do not matter. -/
theorem ToldBy.unmoved
    {store other : Store}
    {messages more : List Message}
    (told : store.ToldBy messages)
    (light : other.light = store.light)
    (sent : other.sent = store.sent)
    (silent : ∀ message ∈ more, ∀ pos, message.lightFor? pos = none ∧
      message ≠ .forget pos) :
    other.ToldBy (messages ++ more) := by
  apply told.append fun message member pos => (silent message member pos).1
  · rw [light]
    exact fun _ _ => id
  · rw [sent]
    exact fun pos member =>
      ⟨member, fun forgotten => (silent _ forgotten pos).2 rfl⟩

/-- Only what was derived from columns matters. -/
theorem ToldBy.congr
    {store other : Store}
    {messages : List Message}
    (told : store.ToldBy messages)
    (light : other.light = store.light)
    (sent : other.sent = store.sent) :
    other.ToldBy messages := by
  rw [← List.append_nil messages]
  exact told.unmoved light sent fun _ member => absurd member List.not_mem_nil

/-! ## Columns coming, going and changing -/

theorem light_of_light_forgetDerived
    {store : Store}
    {pos other : ColumnPos}
    {light : ColumnLight}
    (known : (store.forgetDerived pos).light[other]? = some light) :
    store.light[other]? = some light := by
  simp only [forgetDerived, Std.TreeMap.getElem?_erase] at known
  split at known
  · cases known
  · exact known

theorem mem_sent_forgetDerived_iff
    (store : Store)
    (pos other : ColumnPos) :
    other ∈ (store.forgetDerived pos).sent ↔
      other ≠ pos ∧ other ∈ store.sent := by
  simp only [forgetDerived, Std.TreeSet.mem_erase, ne_eq,
    Std.compare_eq_iff_eq, @eq_comm _ other]

variable
    {store : Store}
    {messages : List Message}
    (told : store.ToldBy messages)
include told

theorem ToldBy.createColumn
    (pos : ColumnPos)
    (declared : Nat) :
    (store.createColumn pos declared).store.ToldBy
      (messages ++ (store.createColumn pos declared).messages) := by
  have started :
      ∀ (columns : Std.TreeMap ColumnPos Column) (more : List Message),
      (∀ message ∈ more, ∀ other, message.lightFor? other = none ∧
        message ≠ .forget other) →
      ToldBy { store.forgetDerived pos with columns := columns }
        (messages ++ more) := by
    intro columns more silent
    apply told.append fun message member other =>
      (silent message member other).1
    · exact fun _ _ => light_of_light_forgetDerived
    · intro other member
      exact ⟨((mem_sent_forgetDerived_iff store pos other).1 member).2,
        fun forgotten => (silent _ forgotten other).2 rfl⟩
  have centered : ∀ message ∈ store.recenterMessages, ∀ other,
      message.lightFor? other = none ∧ message ≠ .forget other := by
    intro message member other
    unfold recenterMessages at member
    split at member
    · rw [List.mem_singleton.1 member]
      exact ⟨rfl, Message.noConfusion⟩
    · cases member
  unfold Store.createColumn
  split
  · simp only
    split
    · exact started _ _ fun _ member => absurd member List.not_mem_nil
    · exact started _ _ centered
  · rw [Outcome.silent, List.append_nil]
    exact told

theorem ToldBy.unloadColumn (pos : ColumnPos) :
    (store.unloadColumn pos).store.ToldBy
      (messages ++ (store.unloadColumn pos).messages) := by
  unfold Store.unloadColumn
  split
  · rw [Outcome.silent, List.append_nil]
    exact told
  · apply told.append
    · intro message member other
      rcases List.mem_cons.1 member with rfl | last
      · rfl
      · rw [List.mem_singleton.1 last]
        rfl
    · exact fun _ _ => light_of_light_forgetDerived
    · intro other member
      obtain ⟨apart, before⟩ :=
        (mem_sent_forgetDerived_iff _ pos other).1 member
      refine ⟨before, fun forgotten => apart ?_⟩
      simpa using forgotten

theorem ToldBy.unloadAll (positions : List ColumnPos) :
    (store.unloadAll positions).1.ToldBy
      (messages ++ (store.unloadAll positions).2) := by
  apply unloadAll_induction
    (fun store sofar => store.ToldBy (messages ++ sofar))
  · intro store sofar pos before
    rw [← List.append_assoc]
    exact before.unloadColumn pos
  · rwa [List.append_nil]

theorem ToldBy.changeBlock
    (pos : BlockPos)
    (layer : Nat)
    (source : UInt32) :
    (store.changeBlock pos layer source).store.ToldBy
      (messages ++ (store.changeBlock pos layer source).messages) := by
  apply told.unmoved
  · rw [changeBlock_eq]
  · rw [changeBlock_eq]
  · intro message member other
    rw [messages_changeBlock store pos layer source message member]
    exact ⟨rfl, Message.noConfusion⟩

theorem ToldBy.mergeSection
    (pos : SectionPos)
    (content : Section)
    (entities : List SourceEntity) :
    (store.mergeSection pos content entities).store.ToldBy
      (messages ++ (store.mergeSection pos content entities).messages) := by
  obtain ⟨frame, silent⟩ := store.mergeSection_eq pos content entities
  rw [silent, List.append_nil]
  apply told.congr
  · rw [frame]
  · rw [frame]

/-! ## Sending and lighting -/

/--
A message about the light of one column is the last one for it, and changes no
other.
-/
theorem ToldBy.lastLight_insert
    {message : Message}
    {pos : ColumnPos}
    {light : ColumnLight}
    (tells : ∀ other, message.lightFor? other = if pos = other then
      some (.ofLight light) else none)
    {other : ColumnPos}
    {content : ColumnLight}
    (known : (store.light.insert pos light)[other]? = some content) :
    lastLight? other (messages ++ [message]) = some (.ofLight content) := by
  simp only [Std.TreeMap.getElem?_insert, Std.compare_eq_iff_eq] at known
  split at known
  · next same =>
      cases known
      exact lastLight?_concat_of_some
        ((tells other).trans (if_pos same)) messages
  · next apart =>
      rw [lastLight?_append_of_silent]
      · exact told.lastLight_eq other content known
      · intro told member
        rw [List.mem_singleton.1 member, tells, if_neg apart]

/-- A column that is sent with its light is shown with it. -/
theorem ToldBy.send
    {target : TargetColumn}
    (palettes : Array Palette)
    (light : ColumnLight) :
    (store.withSent target.pos palettes light).ToldBy
      (messages ++ [.column target (.ofLight light)]) where
  lastLight_eq := fun _ _ known => told.lastLight_insert (fun _ => rfl) known
  shown := by
    intro other member
    rcases Std.TreeSet.mem_insert.1 member with same | before
    · rw [← Std.LawfulEqCmp.eq_of_compare same]
      exact shown_concat messages target _
    · apply (told.shown other before).append
      intro forgotten
      cases List.mem_singleton.1 forgotten
  updatesShown := by
    apply told.updatesShown.append
    intro pos payload member
    cases List.mem_singleton.1 member

/--
Light that is sent for a column that was sent is what the client has from then
on.
-/
theorem ToldBy.relight
    {pos : ColumnPos}
    (sent : pos ∈ store.sent)
    (light : ColumnLight) :
    (store.withLight pos light).ToldBy
      (messages ++ [.light pos (.ofLight light)]) where
  lastLight_eq := fun _ _ known => told.lastLight_insert (fun _ => rfl) known
  shown := by
    intro other member
    apply (told.shown other member).append
    intro forgotten
    cases List.mem_singleton.1 forgotten
  updatesShown := told.updatesShown.concat_light (told.shown pos sent) _

omit told

theorem ToldBy.sendColumn
    {state : TickState}
    (consistent : state.store.Consistent)
    (told : state.store.ToldBy (messages ++ state.messages.reverse))
    (pos : ColumnPos) :
    (state.sendColumn pos).store.ToldBy
      (messages ++ (state.sendColumn pos).messages.reverse) := by
  cases loaded : state.store.column? pos with
  | none => rwa [TickState.sendColumn_of_not_loaded loaded]
  | some column =>
      obtain ⟨storeEq, messagesEq⟩ := TickState.sendColumn_of_loaded loaded
      have here : (state.target column).pos = pos :=
        consistent.pos_eq pos column (columns_of_column? loaded)
      rw [storeEq, messagesEq, relightNeighbors_eq, List.reverse_cons,
        ← List.append_assoc]
      generalize (state.target column).palettes = palettes
      subst here
      exact (told.send palettes _).congr rfl rfl

theorem ToldBy.relightColumn
    {state : TickState}
    (consistent : state.store.Consistent)
    (told : state.store.ToldBy (messages ++ state.messages.reverse))
    (pos : ColumnPos) :
    (state.relightColumn pos).store.ToldBy
      (messages ++ (state.relightColumn pos).messages.reverse) := by
  cases converted : state.store.converted[pos]? with
  | none => rwa [TickState.relightColumn_of_not_converted converted]
  | some palettes =>
      have sent : pos ∈ state.store.sent := by
        rw [← consistent.converted_iff, Std.TreeMap.mem_iff_isSome_getElem?,
          converted]
        rfl
      rcases TickState.relightColumn_of_converted converted with
        ⟨-, storeEq, messagesEq⟩ | ⟨storeEq, messagesEq⟩
      · rwa [storeEq, messagesEq]
      · rw [storeEq, messagesEq, List.reverse_cons, ← List.append_assoc]
        exact told.relight sent _

theorem ToldBy.sendDue
    (budget : Nat)
    {state : TickState}
    (consistent : state.store.Consistent)
    (told : state.store.ToldBy (messages ++ state.messages.reverse)) :
    (state.sendDue budget).store.ToldBy
      (messages ++ (state.sendDue budget).messages.reverse) := by
  refine (TickState.sendDue_induction (fun state => state.store.Consistent ∧
    state.store.ToldBy (messages ++ state.messages.reverse)) ?_
    ⟨consistent, told⟩ budget).2
  rintro state pos dirty - ⟨consistent, told⟩
  let taken : TickState :=
    { state with store := { state.store with dirty := dirty } }
  have takenConsistent : taken.store.Consistent :=
    consistent.congr rfl rfl rfl rfl rfl
  have takenTold : taken.store.ToldBy (messages ++ taken.messages.reverse) :=
    told.congr rfl rfl
  exact ⟨takenConsistent.sendColumn pos,
    takenTold.sendColumn takenConsistent pos⟩

theorem ToldBy.relightDue
    (budget : Nat)
    {state : TickState}
    (consistent : state.store.Consistent)
    (told : state.store.ToldBy (messages ++ state.messages.reverse)) :
    (state.relightDue budget).store.ToldBy
      (messages ++ (state.relightDue budget).messages.reverse) := by
  refine
    (TickState.relightDue_induction (fun state => state.store.Consistent ∧
    state.store.ToldBy (messages ++ state.messages.reverse)) ?_
    ⟨consistent, told⟩ budget).2
  rintro state pos relight popped ⟨consistent, told⟩
  let taken : TickState :=
    { state with store := { state.store with relight := relight } }
  have takenConsistent : taken.store.Consistent :=
    consistent.takeRelight popped
  have takenTold : taken.store.ToldBy (messages ++ taken.messages.reverse) :=
    told.congr rfl rfl
  exact ⟨takenConsistent.relightColumn pos,
    takenTold.relightColumn takenConsistent pos⟩

theorem ToldBy.flush
    {state : TickState}
    (told : state.store.ToldBy (messages ++ state.messages.reverse)) :
    state.flush.store.ToldBy (messages ++ state.flush.messages.reverse) := by
  have asked : state.flush.messages.reverse =
      state.messages.reverse ++ state.store.requests.map .request := by
    simp [TickState.flush, Store.flush]
  have silent : ∀ message ∈ state.store.requests.map Message.request, ∀ pos,
      message.lightFor? pos = none ∧ message ≠ .forget pos := by
    intro message member pos
    obtain ⟨batch, -, rfl⟩ := List.mem_map.1 member
    exact ⟨rfl, Message.noConfusion⟩
  rw [asked, ← List.append_assoc]
  exact told.unmoved rfl rfl silent

theorem ToldBy.tick
    {store : Store}
    (consistent : store.Consistent)
    (told : store.ToldBy messages)
    (cache : LightCache)
    (spawned : Bool) :
    (store.tick cache spawned).1.store.ToldBy
      (messages ++ (store.tick cache spawned).1.messages) := by
  let start : TickState := ⟨store, cache, [], [], ⟨0, 0, 0, 0⟩⟩
  have startTold :
      start.store.ToldBy (messages ++ start.messages.reverse) := by
    rw [List.reverse_nil, List.append_nil]
    exact told
  have sent :=
    startTold.sendDue store.settings.scheduler.columnsPerTick consistent
  have lit := sent.relightDue store.settings.scheduler.lightUpdatesPerTick
    (Consistent.sendDue _ consistent)
  unfold Store.tick
  simp only
  split
  · exact lit.flush
  · exact lit

/-! ## Runs -/

theorem ToldBy.perform
    {store : Store}
    (consistent : store.Consistent)
    (told : store.ToldBy messages)
    (operation : StoreOperation) :
    (store.perform operation).1.ToldBy
      (messages ++ (store.perform operation).2) := by
  cases operation with
  | createColumn pos declared => exact told.createColumn pos declared
  | unloadColumn pos => exact told.unloadColumn pos
  | setCenter center =>
      have moved :
          ToldBy { store with view := { store.view with center := center } }
            messages := told.congr rfl rfl
      exact moved.unloadAll _
  | setRadius radius =>
      have resized :
          ToldBy { store with view := { store.view with radius := radius } }
            messages := told.congr rfl rfl
      exact resized.unloadAll _
  | mergeSection pos content entities =>
      exact told.mergeSection pos content entities
  | changeBlock pos layer source => exact told.changeBlock pos layer source
  | tick cache spawned => exact told.tick consistent cache spawned
  | setPlayer player =>
      rw [Store.perform, List.append_nil]
      exact told.congr rfl rfl
  | markDirty pos =>
      rw [Store.perform, List.append_nil]
      exact told.congr rfl rfl
  | want pos =>
      rw [Store.perform, List.append_nil, want_eq]
      exact told.congr rfl rfl
  | wantRange pos first last =>
      rw [Store.perform, List.append_nil, wantRange_eq]
      exact told.congr rfl rfl
  | addEntity entity =>
      rw [Store.perform, List.append_nil, addEntity, modifyColumn_eq]
      exact told.congr rfl rfl

/--
Whatever happens to a store, the light that it holds for a column that was sent
is the light that the client was last told for it, and light alone is told only
for columns that the client was sent and not told to forget since.
-/
theorem toldBy_run
    (settings : Settings)
    (converter : Converter)
    (operations : List StoreOperation) :
    let store := (create settings converter).run operations
    let messages := (create settings converter).history operations
    (∀ pos, store.isSent pos = true →
      ∃ light, store.sentLight? pos = some light ∧
      lastLight? pos messages = some (.ofLight light)) ∧
    ∀ before pos light after, messages = before ++ .light pos light :: after →
      Shown pos before := by
  have told := history_induction
    (fun store messages => store.Consistent ∧ store.ToldBy messages)
    (fun store messages operation ⟨consistent, told⟩ =>
      ⟨consistent.perform operation, told.perform consistent operation⟩)
    ⟨consistent_create settings converter, toldBy_create settings converter⟩
      operations
  rw [List.nil_append] at told
  obtain ⟨consistent, told⟩ := told
  refine ⟨fun pos sent => ?_, told.updatesShown⟩
  obtain ⟨light, known⟩ := consistent.exists_light sent
  exact ⟨light, known, told.lastLight_eq pos light known⟩

end Store

end VoxelRelay
