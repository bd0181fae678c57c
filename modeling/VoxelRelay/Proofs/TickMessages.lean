import VoxelRelay.Proofs.DueColumns

/-!
# What a tick says and asks for

The messages of a tick come in three parts: the columns that it sends, light
alone, and requests for sections.  Only the last part has to do with what is
wanted and what is under way: a tick before the player has spawned touches
neither, and a tick after that asks for every section that is wanted within
the window, once, and for nothing else.
-/

namespace VoxelRelay

namespace SectionRequest

/--
A batch asks for the sections that it was made from, whatever its base is.
-/
theorem positions_ofPositions
    (base : SectionPos)
    (positions : List SectionPos) :
    (ofPositions base positions).positions = positions := by
  have same : ∀ pos,
    (⟨base.x + (offsetFrom base pos).dx, (offsetFrom base pos).y,
      base.z + (offsetFrom base pos).dz⟩ : SectionPos) = pos := by
    intro pos
    simp only [offsetFrom, Int32.add_comm base.x, Int32.add_comm base.z,
      Int32.sub_add_cancel]
  rw [ofPositions, SectionRequest.positions, List.map_map]
  exact (List.map_congr_left fun pos _ => same pos).trans (List.map_id _)

end SectionRequest

namespace Message

/-- A column is sent. -/
def IsColumn (message : Message) : Prop :=
  ∃ target light, message = .column target light

/-- Light alone is sent. -/
def IsLight (message : Message) : Prop :=
  ∃ pos light, message = .light pos light

/-- The sections that a message asks for. -/
def sections : Message → List SectionPos
  | .request batch => batch.positions
  | _ => []

/-- The column that a message shows. -/
def shown? : Message → Option ColumnPos
  | .column target _ => some target.pos
  | _ => none

/-- All sections that messages ask for, as often as they do. -/
def asked (messages : List Message) : List SectionPos :=
  messages.flatMap sections

/-- All columns that messages show, as often as they do. -/
def shown (messages : List Message) : List ColumnPos :=
  messages.filterMap shown?

theorem asked_append (messages more : List Message) :
    asked (messages ++ more) = asked messages ++ asked more :=
  List.flatMap_append

theorem shown_append (messages more : List Message) :
    shown (messages ++ more) = shown messages ++ shown more :=
  List.filterMap_append

theorem asked_eq_nil
    {messages : List Message}
    (silent : ∀ message ∈ messages, message.sections = []) :
    asked messages = [] :=
  List.flatMap_eq_nil_iff.2 silent

theorem shown_eq_nil
    {messages : List Message}
    (silent : ∀ message ∈ messages, message.shown? = none) :
    shown messages = [] :=
  List.filterMap_eq_nil_iff.2 silent

theorem IsColumn.sections_eq
    {message : Message}
    (column : message.IsColumn) :
    message.sections = [] := by
  obtain ⟨target, light, rfl⟩ := column
  rfl

theorem IsLight.sections_eq
    {message : Message}
    (light : message.IsLight) :
    message.sections = [] := by
  obtain ⟨pos, payload, rfl⟩ := light
  rfl

theorem IsLight.shown?_eq
    {message : Message}
    (light : message.IsLight) :
    message.shown? = none := by
  obtain ⟨pos, payload, rfl⟩ := light
  rfl

theorem asked_requests (batches : List SectionRequest) :
    asked (batches.map .request) = batches.flatMap SectionRequest.positions :=
  List.flatMap_map request sections batches

theorem shown_requests (batches : List SectionRequest) :
    shown (batches.map .request) = [] := by
  apply shown_eq_nil
  intro message member
  obtain ⟨batch, -, rfl⟩ := List.mem_map.1 member
  rfl

end Message

/-! ## Batches -/

namespace Store

/-- Cut into enough pieces, a list loses nothing. -/
theorem flatten_pieces
    {α : Type}
    {size : Nat}
    (positive : 0 < size)
    {steps : Nat}
    {list : List α}
    (enough : list.length ≤ steps) :
    (pieces size steps list).flatten = list := by
  induction steps generalizing list with
  | zero =>
      obtain rfl := List.eq_nil_of_length_eq_zero (Nat.le_zero.1 enough)
      rfl
  | succ steps ih =>
      cases list with
      | nil => rfl
      | cons first rest =>
          have shorter : ((first :: rest).drop size).length ≤ steps := by
            rw [List.length_drop]
            omega
          rw [pieces, List.flatten_cons, ih shorter, List.take_append_drop]
          exact fun impossible => nomatch impossible

/--
All batches together ask for the wanted sections within the window, in order.
-/
theorem flatMap_positions_requests (store : Store) :
    store.requests.flatMap SectionRequest.positions = store.wantedInside := by
  have own : ∀ base : SectionPos, (fun positions =>
      (SectionRequest.ofPositions base positions).positions) = id :=
    fun base => funext (SectionRequest.positions_ofPositions base)
  rw [requests, List.flatMap_map, own, List.flatMap_id]
  exact flatten_pieces
    (Nat.lt_of_lt_of_le Nat.zero_lt_one (Nat.le_max_left _ _)) le_rfl

theorem mem_wantedInside_iff
    (store : Store)
    (pos : SectionPos) :
    pos ∈ store.wantedInside ↔
      pos ∈ store.wanted ∧ store.view.loads pos.column = true := by
  rw [wantedInside, List.mem_filter, Std.TreeSet.mem_toList]

/-- No section is listed twice. -/
theorem nodup_wantedInside (store : Store) : store.wantedInside.Nodup := by
  have distinct : store.wanted.toList.Nodup :=
    store.wanted.distinct_toList.imp fun different same =>
      different (Std.compare_eq_iff_eq.2 same)
  exact distinct.filter _

theorem mem_foldl_insert_iff
    (positions : List SectionPos)
    (start : Std.TreeSet SectionPos)
    (pos : SectionPos) :
    pos ∈ positions.foldl (·.insert ·) start ↔
      pos ∈ start ∨ pos ∈ positions := by
  induction positions generalizing start with
  | nil => simp
  | cons first rest ih =>
      rw [List.foldl_cons, ih, Std.TreeSet.mem_insert, Std.compare_eq_iff_eq,
        List.mem_cons, @eq_comm _ first pos, or_comm (a := pos = first),
        or_assoc]

/-! ## Wishes -/

/--
Two stores have the same window, and the same sections are wanted and under
way.
-/
structure SameWishes (store other : Store) : Prop where
  view_eq : other.view = store.view
  wanted_eq : other.wanted = store.wanted
  inFlight_eq : other.inFlight = store.inFlight

namespace SameWishes

variable {store other : Store}

theorem refl (store : Store) : store.SameWishes store :=
  ⟨rfl, rfl, rfl⟩

theorem trans
    {last : Store}
    (first : store.SameWishes other)
    (second : other.SameWishes last) :
    store.SameWishes last where
  view_eq := second.view_eq.trans first.view_eq
  wanted_eq := second.wanted_eq.trans first.wanted_eq
  inFlight_eq := second.inFlight_eq.trans first.inFlight_eq

theorem wantedInside_eq (same : store.SameWishes other) :
    other.wantedInside = store.wantedInside := by
  rw [wantedInside, same.wanted_eq, same.view_eq, wantedInside]

end SameWishes

end Store

namespace TickState

theorem sameWishes_sendColumn
    (state : TickState)
    (pos : ColumnPos) :
    state.store.SameWishes (state.sendColumn pos).store := by
  cases loaded : state.store.column? pos with
  | none =>
      rw [sendColumn_of_not_loaded loaded]
      exact .refl _
  | some column =>
      rw [(sendColumn_of_loaded loaded).1, Store.relightNeighbors_eq]
      exact ⟨rfl, rfl, rfl⟩

theorem sameWishes_sendDue
    (budget : Nat)
    (state : TickState) :
    state.store.SameWishes (state.sendDue budget).store := by
  apply sendDue_induction (state.store.SameWishes ·.store) _ (.refl _)
  intro next pos dirty _ same
  let taken : TickState :=
    { next with store := { next.store with dirty := dirty } }
  have kept : next.store.SameWishes taken.store := ⟨rfl, rfl, rfl⟩
  exact same.trans (kept.trans (taken.sameWishes_sendColumn pos))

theorem sameView_sendDue
    (budget : Nat)
    (state : TickState) :
    state.store.SameView (state.sendDue budget).store := by
  apply sendDue_induction (state.store.SameView ·.store) _ (.refl _)
  intro next pos dirty _ same
  let taken : TickState :=
    { next with store := { next.store with dirty := dirty } }
  have kept : next.store.SameView taken.store := ⟨rfl, rfl, rfl, rfl⟩
  exact same.trans (kept.trans (taken.sameView_sendColumn pos))

theorem sameWishes_relightDue
    (budget : Nat)
    (state : TickState) :
    state.store.SameWishes (state.relightDue budget).store := by
  obtain ⟨light, relight, done, -⟩ := state.exists_withRelit_relightDue budget
  rw [done]
  exact ⟨rfl, rfl, rfl⟩

/-! ## The three parts -/

/-- While due columns are sent, only columns are put out. -/
theorem exists_messages_sendDue
    (budget : Nat)
    (state : TickState) :
    ∃ told, (state.sendDue budget).messages = told ++ state.messages ∧
      ∀ message ∈ told, message.IsColumn := by
  apply sendDue_induction
    (fun after => ∃ told, after.messages = told ++ state.messages ∧
    ∀ message ∈ told, message.IsColumn)
  · rintro next pos dirty - ⟨told, sofar, columns⟩
    let taken : TickState :=
      { next with store := { next.store with dirty := dirty } }
    cases loaded : taken.store.column? pos with
    | none =>
        have unmoved : taken.sendColumn pos = taken :=
          sendColumn_of_not_loaded loaded
        exact ⟨told, unmoved.symm ▸ sofar, columns⟩
    | some column =>
        refine ⟨_ :: told,
          (sendColumn_of_loaded loaded).2.trans (congrArg _ sofar), ?_⟩
        exact List.forall_mem_cons.2 ⟨⟨_, _, rfl⟩, columns⟩
  · exact ⟨[], rfl, fun _ member => absurd member List.not_mem_nil⟩

/-- While columns are lit anew, only light is put out. -/
theorem exists_messages_relightDue
    (budget : Nat)
    (state : TickState) :
    ∃ told, (state.relightDue budget).messages = told ++ state.messages ∧
      ∀ message ∈ told, message.IsLight := by
  apply relightDue_induction
    (fun after => ∃ told, after.messages = told ++ state.messages ∧
    ∀ message ∈ told, message.IsLight)
  · rintro next pos relight - ⟨told, sofar, lights⟩
    let taken : TickState :=
      { next with store := { next.store with relight := relight } }
    cases converted : taken.store.converted[pos]? with
    | none =>
        have unmoved : taken.relightColumn pos = taken :=
          relightColumn_of_not_converted converted
        exact ⟨told, unmoved.symm ▸ sofar, lights⟩
    | some palettes =>
        rcases relightColumn_of_converted converted with
          ⟨-, -, silent⟩ | ⟨-, loud⟩
        · exact ⟨told, silent.trans sofar, lights⟩
        · refine ⟨_ :: told, loud.trans (congrArg _ sofar), ?_⟩
          exact List.forall_mem_cons.2 ⟨⟨_, _, rfl⟩, lights⟩
  · exact ⟨[], rfl, fun _ member => absurd member List.not_mem_nil⟩

end TickState

namespace Store

/-- The state in which a tick has sent the columns that are due. -/
def sentDue (store : Store) (cache : LightCache) : TickState :=
  TickState.sendDue store.settings.scheduler.columnsPerTick
    ⟨store, cache, [], [], ⟨0, 0, 0, 0⟩⟩

/-- The state in which a tick has lit the columns that are due. -/
def litDue (store : Store) (cache : LightCache) : TickState :=
  (store.sentDue cache).relightDue
    store.settings.scheduler.lightUpdatesPerTick

theorem sameWishes_litDue
    (store : Store)
    (cache : LightCache) :
    store.SameWishes (store.litDue cache).store := by
  have sent : store.SameWishes (store.sentDue cache).store :=
    TickState.sameWishes_sendDue _ ⟨store, cache, [], [], ⟨0, 0, 0, 0⟩⟩
  exact sent.trans ((store.sentDue cache).sameWishes_relightDue _)

theorem tick_of_not_spawned
    (store : Store)
    (cache : LightCache) :
    (store.tick cache false).1.store = (store.litDue cache).store ∧
      (store.tick cache false).1.messages =
        (store.litDue cache).messages.reverse :=
  ⟨rfl, rfl⟩

theorem tick_of_spawned
    (store : Store)
    (cache : LightCache) :
    (store.tick cache true).1.store = (store.litDue cache).store.flush.1 ∧
      (store.tick cache true).1.messages =
        (store.litDue cache).messages.reverse ++
        (store.litDue cache).store.requests.map .request := by
  refine ⟨rfl, ?_⟩
  have joined : (store.tick cache true).1.messages =
      (((store.litDue cache).store.requests.map Message.request).reverse ++
        (store.litDue cache).messages).reverse := rfl
  rw [joined, List.reverse_append, List.reverse_reverse]

/-- A tick first sends columns, then light alone. -/
theorem exists_messages_litDue
    (store : Store)
    (cache : LightCache) :
    ∃ columns lights,
      (store.litDue cache).messages.reverse = columns ++ lights ∧
      (store.sentDue cache).messages.reverse = columns ∧
      (∀ message ∈ columns, message.IsColumn) ∧
        ∀ message ∈ lights, message.IsLight := by
  obtain ⟨columns, sent, areColumns⟩ := TickState.exists_messages_sendDue
    store.settings.scheduler.columnsPerTick
    ⟨store, cache, [], [], ⟨0, 0, 0, 0⟩⟩
  obtain ⟨lights, lit, areLights⟩ :=
    (store.sentDue cache).exists_messages_relightDue
      store.settings.scheduler.lightUpdatesPerTick
  rw [List.append_nil] at sent
  refine ⟨columns.reverse, lights.reverse, ?_, congrArg List.reverse sent, ?_,
    ?_⟩
  · rw [litDue, lit, List.reverse_append, sentDue, sent]
  · exact fun message member => areColumns message (List.mem_reverse.1 member)
  · exact fun message member => areLights message (List.mem_reverse.1 member)

/-- Before it flushes the wishes, a tick asks for nothing. -/
theorem asked_litDue
    (store : Store)
    (cache : LightCache) :
    Message.asked (store.litDue cache).messages.reverse = [] := by
  obtain ⟨columns, lights, parts, -, areColumns, areLights⟩ :=
    store.exists_messages_litDue cache
  rw [parts]
  apply Message.asked_eq_nil
  intro message member
  rcases List.mem_append.1 member with column | light
  · exact (areColumns message column).sections_eq
  · exact (areLights message light).sections_eq

/-- The columns that a tick shows are those that it sends. -/
theorem shown_tick
    (store : Store)
    (cache : LightCache)
    (spawned : Bool) :
    Message.shown (store.tick cache spawned).1.messages =
      Message.shown (store.sentDue cache).messages.reverse := by
  obtain ⟨columns, lights, parts, sent, -, areLights⟩ :=
    store.exists_messages_litDue cache
  have lit : Message.shown (store.litDue cache).messages.reverse =
      Message.shown columns := by
    rw [parts, Message.shown_append,
      Message.shown_eq_nil fun message member =>
        (areLights message member).shown?_eq,
      List.append_nil]
  rw [sent]
  cases spawned with
  | false => rw [(store.tick_of_not_spawned cache).2, lit]
  | true =>
      rw [(store.tick_of_spawned cache).2, Message.shown_append,
        Message.shown_requests, List.append_nil, lit]

/--
Once the player has spawned, a tick asks for the wanted sections within the
window.
-/
theorem asked_tick
    (store : Store)
    (cache : LightCache)
    (spawned : Bool) :
    Message.asked (store.tick cache spawned).1.messages =
      if spawned then store.wantedInside else [] := by
  cases spawned with
  | false =>
      exact (store.tick_of_not_spawned cache).2 ▸ store.asked_litDue cache
  | true =>
      rw [(store.tick_of_spawned cache).2, Message.asked_append, asked_litDue,
        List.nil_append, Message.asked_requests, flatMap_positions_requests,
        (store.sameWishes_litDue cache).wantedInside_eq, if_pos rfl]

/--
What is under way after a tick was under way before, or was asked for by the
tick.
-/
theorem mem_inFlight_tick_iff
    (store : Store)
    (cache : LightCache)
    (spawned : Bool)
    (pos : SectionPos) :
    pos ∈ (store.tick cache spawned).1.store.inFlight ↔
      pos ∈ store.inFlight ∨
        pos ∈ Message.asked (store.tick cache spawned).1.messages := by
  have same := store.sameWishes_litDue cache
  rw [asked_tick]
  cases spawned with
  | false =>
      rw [(store.tick_of_not_spawned cache).1, same.inFlight_eq,
        if_neg Bool.false_ne_true]
      exact (or_iff_left List.not_mem_nil).symm
  | true =>
      rw [(store.tick_of_spawned cache).1, flush, mem_foldl_insert_iff,
        same.inFlight_eq, same.wantedInside_eq, if_pos rfl]

/-- After a tick that asks for sections, nothing is wanted any more. -/
theorem wanted_tick_of_spawned
    (store : Store)
    (cache : LightCache) :
    (store.tick cache true).1.store.wanted = ∅ :=
  rfl

/-- A tick asks for no section twice. -/
theorem nodup_asked_tick
    (store : Store)
    (cache : LightCache)
    (spawned : Bool) :
    (Message.asked (store.tick cache spawned).1.messages).Nodup := by
  rw [asked_tick]
  split
  · exact store.nodup_wantedInside
  · exact List.nodup_nil

end Store

end VoxelRelay
