import VoxelRelay.Proofs.TickMessages

/-!
# Wanted sections in batches

Once the player has spawned, a tick asks for the wanted sections within the
window.  They are listed in order and cut into batches, all of one size but the
last, and each batch names its sections by their distance from the center of
the window.  Reading the batches back gives the list again, so that nothing is
lost and nothing asked for twice; and where the distances fit into the
coordinates, neither taking nor adding them wraps around.

The main result is `asksForWanted_tick`.
-/

namespace VoxelRelay

namespace SectionPos

/--
The order in which sections are asked for: by `x`, then by `y`, then by `z`.
-/
def Precedes (first second : SectionPos) : Prop :=
  first.x < second.x ∨ first.x = second.x ∧
    (first.y < second.y ∨ first.y = second.y ∧ first.z < second.z)

theorem compare_eq_lt_iff (first second : SectionPos) :
    compare first second = .lt ↔ first.Precedes second := by
  have split : compare first second = (compare first.x second.x).then
      ((compare first.y second.y).then (compare first.z second.z)) := rfl
  rw [split, Ordering.then_eq_lt, Ordering.then_eq_lt, Std.compare_eq_lt,
    Std.compare_eq_lt, Std.compare_eq_lt, Std.compare_eq_iff_eq,
    Std.compare_eq_iff_eq, Precedes]

end SectionPos

/-! ## Distances -/

namespace SectionRequest

/-- The distances of a section from a base fit into coordinates. -/
def InReach (base pos : SectionPos) : Prop :=
  (-2 ^ 31 ≤ pos.x.toInt - base.x.toInt ∧
    pos.x.toInt - base.x.toInt < 2 ^ 31) ∧
    (-2 ^ 31 ≤ pos.z.toInt - base.z.toInt ∧
      pos.z.toInt - base.z.toInt < 2 ^ 31)

theorem toInt_sub_of_fits
    {left right : Int32}
    (fits : -2 ^ 31 ≤ left.toInt - right.toInt ∧
      left.toInt - right.toInt < 2 ^ 31) :
    (left - right).toInt = left.toInt - right.toInt := by
  rw [Int32.toInt_sub, Int.bmod_eq_of_le (by omega) (by omega)]

/-- Distances that fit are taken, and added again, without wrapping around. -/
theorem InReach.toInt_offsetFrom
    {base pos : SectionPos}
    (near : InReach base pos) :
    base.x.toInt + (offsetFrom base pos).dx.toInt = pos.x.toInt ∧
      (offsetFrom base pos).y = pos.y ∧
      base.z.toInt + (offsetFrom base pos).dz.toInt = pos.z.toInt := by
  have x := toInt_sub_of_fits near.1
  have z := toInt_sub_of_fits near.2
  refine ⟨?_, rfl, ?_⟩
  · rw [offsetFrom, x]
    omega
  · rw [offsetFrom, z]
    omega

theorem length_offsets_ofPositions
    (base : SectionPos)
    (positions : List SectionPos) :
    (ofPositions base positions).offsets.length = positions.length :=
  List.length_map _

end SectionRequest

/-! ## Pieces -/

namespace Store

/--
The pieces of a list, in the order of the list, have one size but for the
last.
-/
structure CutEvenly
    {α : Type}
    (size : Nat)
    (pieces : List (List α)) : Prop where
  full : ∀ piece ∈ pieces.dropLast, piece.length = size
  last : ∀ piece ∈ pieces.getLast?, 1 ≤ piece.length ∧ piece.length ≤ size

theorem pieces_nil
    {α : Type}
    (size steps : Nat) :
    pieces size steps ([] : List α) = [] := by
  cases steps <;> rfl

theorem cutEvenly_pieces
    {α : Type}
    {size : Nat}
    (positive : 0 < size)
    (steps : Nat)
    (list : List α) :
    CutEvenly size (pieces size steps list) := by
  induction steps generalizing list with
  | zero =>
      exact ⟨fun _ member => absurd member List.not_mem_nil, fun _ none =>
        nomatch none⟩
  | succ steps ih =>
      cases list with
      | nil =>
          exact ⟨fun _ member => absurd member List.not_mem_nil, fun _ none =>
            nomatch none⟩
      | cons first rest =>
          have later := ih ((first :: rest).drop size)
          have cut : pieces size (steps + 1) (first :: rest) =
              (first :: rest).take size ::
                pieces size steps ((first :: rest).drop size) :=
            rfl
          rw [cut]
          cases remaining : pieces size steps ((first :: rest).drop size) with
          | nil =>
              refine ⟨fun _ member => absurd member List.not_mem_nil, ?_⟩
              intro piece only
              obtain rfl : (first :: rest).take size = piece :=
                Option.some.inj only
              rw [List.length_take, List.length_cons]
              omega
          | cons second others =>
              rw [remaining] at later
              refine ⟨List.forall_mem_cons.2 ⟨?_, later.full⟩, later.last⟩
              -- There is a further piece, so the first one is full.
              have longer : (first :: rest).drop size ≠ [] := by
                intro none
                rw [none, pieces_nil] at remaining
                cases remaining
              rw [ne_eq, List.drop_eq_nil_iff, Nat.not_le] at longer
              rw [List.length_take]
              omega

end Store

/-! ## What a tick asks for -/

/-- The batch that a message asks for, if it asks for one. -/
def Message.batch? : Message → Option SectionRequest
  | .request batch => some batch
  | _ => none

/-- The batches that messages ask for, in turn. -/
def Message.batches (messages : List Message) : List SectionRequest :=
  messages.filterMap batch?

namespace TickState

/-- Only asking for sections counts batches. -/
theorem requestBatches_sendColumn
    (state : TickState)
    (pos : ColumnPos) :
    (state.sendColumn pos).report.requestBatches =
      state.report.requestBatches := by
  simp only [sendColumn]
  split <;> rfl

theorem requestBatches_relightColumn
    (state : TickState)
    (pos : ColumnPos) :
    (state.relightColumn pos).report.requestBatches =
      state.report.requestBatches := by
  simp only [relightColumn]
  split
  · rfl
  · cases state.store.light[pos]? with
    | none => rfl
    | some old =>
        simp only
        split <;> rfl

end TickState

namespace Store

variable (store : Store) (cache : LightCache)

theorem requestBatches_litDue :
    (store.litDue cache).report.requestBatches = 0 := by
  apply TickState.relightDue_induction (·.report.requestBatches = 0)
  · exact fun state pos relight _ none =>
      (TickState.requestBatches_relightColumn _ pos).trans none
  · apply TickState.sendDue_induction (·.report.requestBatches = 0)
    · exact fun state pos dirty _ none =>
        (TickState.requestBatches_sendColumn _ pos).trans none
    · rfl

theorem batches_litDue :
    Message.batches (store.litDue cache).messages.reverse = [] := by
  obtain ⟨columns, lights, parts, -, areColumns, areLights⟩ :=
    store.exists_messages_litDue cache
  rw [parts, Message.batches, List.filterMap_eq_nil_iff]
  intro message member
  rcases List.mem_append.1 member with column | light
  · obtain ⟨target, payload, rfl⟩ := areColumns message column
    rfl
  · obtain ⟨pos, payload, rfl⟩ := areLights message light
    rfl

theorem sameView_litDue : store.SameView (store.litDue cache).store := by
  have sent : store.SameView (store.sentDue cache).store :=
    TickState.sameView_sendDue _ ⟨store, cache, [], [], ⟨0, 0, 0, 0⟩⟩
  obtain ⟨light, relight, done, -⟩ :=
    (store.sentDue cache).exists_withRelit_relightDue
      store.settings.scheduler.lightUpdatesPerTick
  refine sent.trans ?_
  rw [litDue, done]
  exact ⟨rfl, rfl, rfl, rfl⟩

/-- What a tick asks for is known before it starts. -/
theorem requests_litDue :
    (store.litDue cache).store.requests = store.requests := by
  simp only [requests, (store.sameWishes_litDue cache).wantedInside_eq,
    (store.sameView_litDue cache).settings_eq,
    (store.sameView_litDue cache).view_eq]

theorem batches_tick_of_spawned :
    Message.batches (store.tick cache true).1.messages = store.requests := by
  rw [(store.tick_of_spawned cache).2, Message.batches, List.filterMap_append,
    ← Message.batches, batches_litDue, List.nil_append, List.filterMap_map,
    requests_litDue]
  exact List.filterMap_some

theorem pairwise_precedes_wantedInside :
    store.wantedInside.Pairwise SectionPos.Precedes := by
  have ordered : store.wanted.toList.Pairwise SectionPos.Precedes :=
    store.wanted.ordered_toList.imp (SectionPos.compare_eq_lt_iff _ _).1
  exact ordered.sublist List.filter_sublist

/-- From where the distances of wanted sections are taken. -/
def requestBase : SectionPos := ⟨store.view.center.x, 0, store.view.center.z⟩

/-- How many sections a batch asks for, but for the last. -/
def batchSize : Nat := max 1 store.settings.scheduler.requestBatchSize

theorem requests_eq : store.requests =
    (pieces store.batchSize store.wantedInside.length store.wantedInside).map
      (.ofPositions store.requestBase) :=
  rfl

/--
A tick asks for each wanted section within the window once, in order and in
batches.
-/
structure AsksForWanted (outcome : Outcome TickReport) : Prop where
  mem_asked_iff : ∀ pos,
    pos ∈ (Message.batches outcome.messages).flatMap (·.positions) ↔
    pos ∈ store.wanted ∧ store.view.loads pos.column = true
  /-- The sections are in strict order, so that each is asked for once. -/
  ascending :
    ((Message.batches outcome.messages).flatMap (·.positions)).Pairwise
    SectionPos.Precedes
  full : ∀ batch ∈ (Message.batches outcome.messages).dropLast,
    batch.offsets.length = max 1 store.settings.scheduler.requestBatchSize
  last : ∀ batch ∈ (Message.batches outcome.messages).getLast?,
    1 ≤ batch.offsets.length ∧
    batch.offsets.length ≤ max 1 store.settings.scheduler.requestBatchSize
  /--
  Nothing is wanted any more, be it that it was asked for or that the window
  has moved on.
  -/
  wanted_eq : outcome.store.wanted = ∅
  mem_inFlight_iff : ∀ pos, pos ∈ outcome.store.inFlight ↔
    pos ∈ store.inFlight ∨
    pos ∈ (Message.batches outcome.messages).flatMap (·.positions)
  requestBatches_eq :
    outcome.value.requestBatches = (Message.batches outcome.messages).length
  /--
  Offsets are distances from the center, and no coordinate wraps around that
  has room.
  -/
  exact_offsets : ∀ batch ∈ Message.batches outcome.messages,
    batch.base = store.requestBase ∧
      batch.offsets = batch.positions.map
        (SectionRequest.offsetFrom store.requestBase) ∧
      ∀ pos ∈ batch.positions, SectionRequest.InReach store.requestBase pos →
        let offset := SectionRequest.offsetFrom store.requestBase pos
        store.requestBase.x.toInt + offset.dx.toInt = pos.x.toInt ∧
        offset.y = pos.y ∧
          store.requestBase.z.toInt + offset.dz.toInt = pos.z.toInt

/--
A tick asks for nothing and leaves alone what is wanted and what is under way.
-/
structure KeepsWishes (outcome : Outcome TickReport) : Prop where
  batches_eq : Message.batches outcome.messages = []
  requestBatches_eq : outcome.value.requestBatches = 0
  wanted_eq : outcome.store.wanted = store.wanted
  inFlight_eq : outcome.store.inFlight = store.inFlight

theorem cutEvenly_requests :
    (∀ batch ∈ store.requests.dropLast,
      batch.offsets.length = store.batchSize) ∧
      ∀ batch ∈ store.requests.getLast?,
        1 ≤ batch.offsets.length ∧
          batch.offsets.length ≤ store.batchSize := by
  have positive : 0 < store.batchSize :=
    Nat.lt_of_lt_of_le Nat.zero_lt_one (Nat.le_max_left _ _)
  have even :=
    cutEvenly_pieces positive store.wantedInside.length store.wantedInside
  rw [requests_eq, ← List.map_dropLast, List.getLast?_map]
  refine ⟨fun batch member => ?_, fun batch member => ?_⟩
  · obtain ⟨piece, cut, rfl⟩ := List.mem_map.1 member
    rw [SectionRequest.length_offsets_ofPositions]
    exact even.full piece cut
  · obtain ⟨piece, cut, rfl⟩ := Option.map_eq_some_iff.1 member
    rw [SectionRequest.length_offsets_ofPositions]
    exact even.last piece cut

/--
Once the player has spawned, a tick asks for the wanted sections within the
window, each once and in ascending order, in batches that are full but for the
last; it drops the other wishes, and what was asked for is under way after it,
with what was before.  Before the player has spawned, a tick leaves what is
wanted and what is under way alone.
-/
theorem asksForWanted_tick :
    store.AsksForWanted (store.tick cache true).1 ∧
      store.KeepsWishes (store.tick cache false).1 := by
  have batches := store.batches_tick_of_spawned cache
  have asked := store.flatMap_positions_requests
  have even := store.cutEvenly_requests
  constructor
  · constructor
    · intro pos
      rw [batches, asked]
      exact store.mem_wantedInside_iff pos
    · rw [batches, asked]
      exact store.pairwise_precedes_wantedInside
    · rw [batches]
      exact even.1
    · rw [batches]
      exact even.2
    · exact store.wanted_tick_of_spawned cache
    · intro pos
      rw [batches, asked, store.mem_inFlight_tick_iff, store.asked_tick,
        if_pos rfl]
    · rw [batches]
      exact congrArg List.length (store.requests_litDue cache)
    · intro batch member
      rw [batches, requests_eq] at member
      obtain ⟨piece, -, rfl⟩ := List.mem_map.1 member
      rw [SectionRequest.positions_ofPositions]
      exact ⟨rfl, rfl, fun pos _ near => near.toInt_offsetFrom⟩
  · have same := store.sameWishes_litDue cache
    exact ⟨store.batches_litDue cache, store.requestBatches_litDue cache,
      same.wanted_eq, same.inFlight_eq⟩

end Store

end VoxelRelay
