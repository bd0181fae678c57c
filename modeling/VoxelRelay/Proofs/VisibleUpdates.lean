import VoxelRelay.Proofs.CanonicalLight
import VoxelRelay.Proofs.CheckedTicks

/-!
# Light updates that can be seen

A column that was lit anew is sent if its light differs from what is stored.
Light is compared slab by slab, and an absent slab is other than a dark one,
though both read the same.  But light that was computed has one form only: all
slabs of its sky light are there, and of its block light there are the slabs
that are not dark.  What a store keeps and what it finds in a cache has this
form, whoever put it there; so light differs exactly if some level does, and
an update is sent exactly if some level has changed.
-/

namespace VoxelRelay

/-! ## Light in its one form -/

namespace LightData

/--
Some level of two kinds of light is different; where there is no slot it is
dark.
-/
def LevelsDiffer (left right : LightData) : Prop :=
  ∃ slot, slot < max left.size right.size ∧
    ∃ index, index < 4096 ∧ left.level slot index ≠ right.level slot index

instance (left right : LightData) : Decidable (left.LevelsDiffer right) :=
  inferInstanceAs (Decidable (∃ slot, slot < _ ∧ ∃ index, index < _ ∧ _ ≠ _))

theorem level_eq_zero_of_size_le
    (light : LightData)
    {slot : Nat}
    (beyond : light.size ≤ slot)
    (index : Nat) :
    light.level slot index = 0 := by
  apply level_eq_zero_of_slab?
  rw [slab?, Array.getElem?_eq_none beyond]
  rfl

variable {left right : LightData}

theorem level_eq_of_not_levelsDiffer
    (same : ¬ left.LevelsDiffer right)
    (slot : Nat)
    {index : Nat}
    (inside : index < 4096) :
    left.level slot index = right.level slot index := by
  by_contra different
  rcases Nat.lt_or_ge slot (max left.size right.size) with low | beyond
  · exact same ⟨slot, low, index, inside, different⟩
  · apply different
    rw [left.level_eq_zero_of_size_le (le_trans (Nat.le_max_left _ _) beyond),
      right.level_eq_zero_of_size_le (le_trans (Nat.le_max_right _ _) beyond)]

theorem LevelsDiffer.symm (different : left.LevelsDiffer right) :
    right.LevelsDiffer left := by
  obtain ⟨slot, low, index, inside, levels⟩ := different
  exact ⟨slot, Nat.max_comm left.size right.size ▸ low, index, inside,
    levels.symm⟩

theorem not_levelsDiffer_self (light : LightData) :
    ¬ light.LevelsDiffer light := by
  rintro ⟨_, -, _, -, different⟩
  exact different rfl

theorem LevelsDiffer.differs (levels : left.LevelsDiffer right) :
    left.differs right = true := by
  rw [LightData.differs, bne_iff_ne]
  rintro rfl
  exact left.not_levelsDiffer_self levels

/--
Where equal levels make light equal, light differs exactly if some level does.
-/
theorem differs_iff_of_ext (ext : ¬ left.LevelsDiffer right → left = right) :
    left.differs right = true ↔ left.LevelsDiffer right := by
  refine ⟨fun different => ?_, LevelsDiffer.differs⟩
  by_contra same
  exact bne_iff_ne.1 different (ext same)

/--
The form of sky light: all slabs are there, the one above the top as bright as
can be.
-/
structure SkyForm (light : LightData) (count : Nat) : Prop where
  size_eq : light.size = count + 2
  present : ∀ slot, slot < count + 2 → (light.slab? slot).isSome = true
  top : light.slab? (count + 1) = some .full

/--
The form of block light: those slabs are there that hold light, none outside
the world.
-/
structure BlockForm (light : LightData) (count : Nat) : Prop where
  size_eq : light.size = count + 2
  bottom : light.slab? 0 = none
  top : light.slab? (count + 1) = none
  present_iff : ∀ slot, (light.slab? slot).isSome = true ↔
    ∃ index, index < 4096 ∧ 0 < light.level slot index

variable {count other : Nat}

theorem SkyForm.eq_of_levels
    (leftForm : left.SkyForm count)
    (rightForm : right.SkyForm count)
    (same : ¬ left.LevelsDiffer right) :
    left = right := by
  apply ext_level (leftForm.size_eq.trans rightForm.size_eq.symm)
  · intro slot inside
    rw [leftForm.size_eq] at inside
    exact iff_of_true (leftForm.present slot inside)
      (rightForm.present slot inside)
  · exact fun slot index _ inside =>
      level_eq_of_not_levelsDiffer same slot inside

/--
The slab above the top is bright, so sky light of a lower column ends in
darkness there.
-/
theorem SkyForm.count_le
    (leftForm : left.SkyForm count)
    (rightForm : right.SkyForm other)
    (same : ¬ left.LevelsDiffer right) :
    count ≤ other := by
  by_contra taller
  have bright : left.level (count + 1) 0 = maxLevel := by
    rw [level_eq_of_slab? leftForm.top]
    exact LightSlab.get_uniform maxLevel (by decide)
  have dark : right.level (count + 1) 0 = 0 := by
    apply right.level_eq_zero_of_size_le
    rw [rightForm.size_eq]
    omega
  have equal :=
    level_eq_of_not_levelsDiffer same (count + 1) (by decide : 0 < 4096)
  rw [bright, dark] at equal
  exact absurd equal (by decide)

theorem BlockForm.eq_of_levels
    (leftForm : left.BlockForm count)
    (rightForm : right.BlockForm count)
    (same : ¬ left.LevelsDiffer right) :
    left = right := by
  apply ext_level (leftForm.size_eq.trans rightForm.size_eq.symm)
  · intro slot _
    rw [leftForm.present_iff, rightForm.present_iff]
    refine exists_congr fun index => and_congr_right fun inside => ?_
    rw [level_eq_of_not_levelsDiffer same slot inside]
  · exact fun slot index _ inside =>
      level_eq_of_not_levelsDiffer same slot inside

end LightData

namespace ColumnLight

/-- Some level of the light of two columns is different. -/
def LevelsDiffer (left right : ColumnLight) : Prop :=
  left.sky.LevelsDiffer right.sky ∨ left.block.LevelsDiffer right.block

instance (left right : ColumnLight) : Decidable (left.LevelsDiffer right) :=
  inferInstanceAs (Decidable (_ ∨ _))

/-- The form of the light of a column of `count` sections. -/
structure Canonical (light : ColumnLight) (count : Nat) : Prop where
  sky : light.sky.SkyForm count
  block : light.block.BlockForm count

variable {left right : ColumnLight} {count other : Nat}

/--
Light in canonical form differs exactly if some level does, whatever it is the
light of.
-/
theorem Canonical.differs_iff
    (leftForm : left.Canonical count)
    (rightForm : right.Canonical other) :
    left.differs right = true ↔ left.LevelsDiffer right := by
  rw [differs, Bool.or_eq_true]
  constructor
  · intro different
    by_contra same
    obtain ⟨sky, block⟩ := not_or.1 same
    obtain rfl : count = other :=
      le_antisymm (leftForm.sky.count_le rightForm.sky sky)
        (rightForm.sky.count_le leftForm.sky fun levels => sky levels.symm)
    rcases different with different | different
    · exact sky ((LightData.differs_iff_of_ext
        (leftForm.sky.eq_of_levels rightForm.sky)).1 different)
    · exact block ((LightData.differs_iff_of_ext
        (leftForm.block.eq_of_levels rightForm.block)).1 different)
  · exact Or.imp LightData.LevelsDiffer.differs LightData.LevelsDiffer.differs

end ColumnLight

namespace LightInput

variable (properties : LightProperties) {input : LightInput}

theorem skyForm_skyLight (input : LightInput) :
    (input.skyLight properties).SkyForm input.sections.size where
  size_eq := size_skyLight properties input
  present := fun _ inside => isSome_slab?_skyLight properties inside
  top := slab?_skyLight_top properties input

section

variable (cubes : ∀ palette ∈ input.sections, palette.SectionCube)
include cubes

theorem blockForm_blockLight :
    (input.blockLight properties).BlockForm input.sections.size where
  size_eq := size_blockLight properties input cubes
  bottom := by
    rw [← Option.not_isSome_iff_eq_none,
      isSome_slab?_blockLight_iff properties cubes]
    rintro ⟨voxel, -, below, -⟩
    exact absurd below (Nat.succ_ne_zero _)
  top := by
    rw [← Option.not_isSome_iff_eq_none,
      isSome_slab?_blockLight_iff properties cubes]
    rintro ⟨voxel, inRange, above, -⟩
    exact absurd (Nat.succ.inj above) (Nat.ne_of_lt inRange.1)
  present_iff := by
    intro slot
    constructor
    · intro present
      obtain ⟨voxel, inRange, rfl, lit⟩ :=
        (isSome_slab?_blockLight_iff properties cubes).1 present
      exact ⟨voxel.index, Voxel.index_lt inRange, lit⟩
    · rintro ⟨index, -, lit⟩
      exact LightData.isSome_slab?_of_lit lit

/-- Computed light is in canonical form. -/
theorem canonical_light :
    (input.light properties).Canonical input.sections.size :=
  ⟨skyForm_skyLight properties input, blockForm_blockLight properties cubes⟩

end

end LightInput

/-! ## Light that is kept -/

/-- Light in the form in which it is computed for some column. -/
def ColumnLight.InForm (light : ColumnLight) : Prop :=
  ∃ count, light.Canonical count

theorem LightInput.inForm_light
    (properties : LightProperties)
    {input : LightInput}
    (cubes : ∀ palette ∈ input.sections, palette.SectionCube) :
    (input.light properties).InForm :=
  ⟨_, canonical_light properties cubes⟩

theorem ColumnLight.InForm.differs_iff
    {left right : ColumnLight}
    (leftForm : left.InForm)
    (rightForm : right.InForm) :
    left.differs right = true ↔ left.LevelsDiffer right := by
  obtain ⟨_, leftForm⟩ := leftForm
  obtain ⟨_, rightForm⟩ := rightForm
  exact leftForm.differs_iff rightForm

namespace Store

/--
A store of cubes in which all light is in the form in which it is computed.
-/
structure Genuine (store : Store) : Prop where
  sound : store.Sound
  consistent : store.Consistent
  light : ∀ (pos : ColumnPos) (light : ColumnLight),
    store.light[pos]? = some light → light.InForm

theorem genuine_create
    (settings : Settings)
    (converter : Converter) :
    (create settings converter).Genuine where
  sound := sound_create settings converter
  consistent := consistent_create settings converter
  light := fun _ _ known => by simp [create] at known

theorem inForm_insert
    {lights : Std.TreeMap ColumnPos ColumnLight}
    (inForm : ∀ (pos : ColumnPos) (light : ColumnLight),
      lights[pos]? = some light → light.InForm)
    {light : ColumnLight}
    (computed : light.InForm)
    (pos other : ColumnPos)
    (found : ColumnLight)
    (known : (lights.insert pos light)[other]? = some found) :
    found.InForm := by
  rw [Std.TreeMap.getElem?_insert] at known
  split at known
  · cases known
    exact computed
  · exact inForm other found known

end Store

namespace TickState

/--
The light in a store at work and in its cache is in the form in which it is
computed.
-/
structure Genuine (state : TickState) : Prop where
  store : state.store.Genuine
  cache : state.cache.Every ColumnLight.InForm

variable {state : TickState} (genuine : state.Genuine)
include genuine

/--
A column is sent with light in this form, which its store and the cache go on
to keep.
-/
theorem Genuine.sendColumn (pos : ColumnPos) :
    (state.sendColumn pos).Genuine := by
  cases loaded : state.store.column? pos with
  | none =>
      rw [sendColumn_of_not_loaded loaded]
      exact genuine
  | some column =>
      have cubic :=
        genuine.store.sound.columns pos column
          (Store.columns_of_column? loaded)
      have cubes :=
        state.store.converter.cubes_palettes_convert cubic state.store.minY
      have computed : (state.sendTask pos column).light.InForm :=
        LightInput.inForm_light (state.sendTask pos column).properties cubes
      obtain ⟨answer, after⟩ := genuine.cache.getOrCompute computed
      refine ⟨⟨genuine.store.sound.sendColumn pos,
          genuine.store.consistent.sendColumn pos, ?_⟩,
        ?_⟩
      · rw [sendColumn_eq_sentWith loaded, sentWith,
          Store.relightNeighbors_eq]
        exact Store.inForm_insert genuine.store.light answer pos
      · rw [sendColumn_eq_sentWith loaded]
        exact after

/--
The light that a relit column gets is in this form, and so is what the cache
keeps then.
-/
theorem Genuine.inForm_computed
    {pos : ColumnPos}
    {palettes : Array Palette}
    (converted : state.store.converted[pos]? = some palettes) :
    (state.computed pos palettes).1.InForm ∧
      (state.computed pos palettes).2.Every ColumnLight.InForm := by
  have cubes := genuine.store.sound.converted pos palettes converted
  exact genuine.cache.getOrCompute
    (@LightInput.inForm_light _ (state.store.lightInput pos palettes) cubes)

theorem Genuine.relightColumn (pos : ColumnPos) :
    (state.relightColumn pos).Genuine := by
  cases converted : state.store.converted[pos]? with
  | none =>
      rw [relightColumn_of_not_converted converted]
      exact genuine
  | some palettes =>
      obtain ⟨answer, after⟩ := genuine.inForm_computed converted
      refine ⟨⟨?_, genuine.store.consistent.relightColumn pos, ?_⟩, ?_⟩
      · obtain ⟨light, step, -⟩ := state.exists_light_relightColumn pos
        rw [step]
        exact genuine.store.sound.congr rfl rfl
      · rcases relightColumn_of_converted converted with
          ⟨-, same, -⟩ | ⟨changed, -⟩
        · rw [same]
          exact genuine.store.light
        · rw [changed]
          exact Store.inForm_insert genuine.store.light answer pos
      · rw [relightColumn_eq_relitWith converted, relitWith]
        split <;> exact after

end TickState

/-! ## Updates -/

namespace TickState

/--
The update that shows new light of a column, if some level of it is not the
one stored.
-/
def visibleUpdate? (state : TickState) (pos : ColumnPos) : Option Message :=
  match state.store.converted[pos]?, state.store.light[pos]? with
  | some palettes, some old =>
      let light := (state.computed pos palettes).1
      if light.LevelsDiffer old then some
        (.light pos (.ofLight light)) else none
  | _, _ => none

/--
The columns that are lit anew, at most the given number, each with the state
at its turn.
-/
def relightTurns : Nat → TickState → List (TickState × ColumnPos)
  | 0, _ => []
  | budget + 1, state =>
      match state.store.relight.pop? with
      | none => []
      | some (pos, relight) =>
          let taken : TickState :=
            { state with store := { state.store with relight := relight } }
          (taken, pos) :: relightTurns budget (taken.relightColumn pos)

variable {state : TickState} (genuine : state.Genuine)
include genuine

/--
Lighting a column anew sends the update that can be seen, and nothing else.
-/
theorem Genuine.messages_relightColumn (pos : ColumnPos) :
    (state.relightColumn pos).messages =
      (state.visibleUpdate? pos).toList ++ state.messages := by
  cases converted : state.store.converted[pos]? with
  | none =>
      have silent : state.visibleUpdate? pos = none := by
        rw [visibleUpdate?, converted]
      rw [relightColumn_of_not_converted converted, silent]
      rfl
  | some palettes =>
      obtain ⟨old, known⟩ := genuine.store.consistent.exists_light
        (genuine.store.consistent.sent_of_converted converted)
      have changed := (genuine.inForm_computed converted).1.differs_iff
        (genuine.store.light pos old known)
      have update : state.visibleUpdate? pos =
          if (state.computed pos palettes).1.LevelsDiffer old then
            some (.light pos (.ofLight (state.computed pos palettes).1))
          else none := by
        rw [visibleUpdate?, converted, known]
      have fresh : state.isNew pos (state.computed pos palettes).1 =
          (state.computed pos palettes).1.differs old := by
        rw [isNew, known]
      have step : state.relightColumn pos =
          state.relitWith pos (state.computed pos palettes) :=
        relightColumn_eq_relitWith converted
      rw [step, update, relitWith, fresh]
      by_cases levels : (state.computed pos palettes).1.LevelsDiffer old
      · rw [if_pos (changed.2 levels), if_pos levels]
        rfl
      · rw [if_neg (fun different => levels (changed.1 different)),
          if_neg levels]
        rfl

/--
What is due does not matter, as long as only sent columns are due to be lit
anew.
-/
theorem Genuine.takeDirty (dirty : ColumnQueue) :
    Genuine { state with store := { state.store with dirty := dirty } } where
  store :=
    { sound := genuine.store.sound.congr rfl rfl
      consistent := genuine.store.consistent.congr rfl rfl rfl rfl rfl
      light := genuine.store.light }
  cache := genuine.cache

theorem Genuine.takeRelight
    {pos : ColumnPos}
    {relight : ColumnQueue}
    (taken : state.store.relight.pop? = some (pos, relight)) :
    Genuine
      { state with store := { state.store with relight := relight } } where
  store :=
    { sound := genuine.store.sound.congr rfl rfl
      consistent := genuine.store.consistent.takeRelight taken
      light := genuine.store.light }
  cache := genuine.cache

theorem Genuine.sendDue (budget : Nat) : (state.sendDue budget).Genuine :=
  sendDue_induction Genuine
    (fun _ pos dirty _ genuine => (genuine.takeDirty dirty).sendColumn pos)
    genuine budget

/--
Over all turns, the updates that can be seen are sent, in order, and nothing
else.
-/
theorem Genuine.relightDue (budget : Nat) :
    (state.relightDue budget).Genuine ∧
      (state.relightDue budget).messages.reverse = state.messages.reverse ++
        (relightTurns budget state).filterMap fun turn =>
          turn.1.visibleUpdate? turn.2 := by
  induction budget generalizing state with
  | zero => exact ⟨genuine, (List.append_nil _).symm⟩
  | succ budget ih =>
      rw [TickState.relightDue, relightTurns]
      cases due : state.store.relight.pop? with
      | none => exact ⟨genuine, (List.append_nil _).symm⟩
      | some first =>
          obtain ⟨pos, relight⟩ := first
          have taken := genuine.takeRelight due
          obtain ⟨after, told⟩ := ih (taken.relightColumn pos)
          refine ⟨after, told.trans ?_⟩
          rw [taken.messages_relightColumn pos, List.filterMap_cons]
          cases TickState.visibleUpdate?
            { state with store := { state.store with relight := relight } }
            pos <;> simp

end TickState

/-! ## Ticks and runs -/

namespace Store

/-- The columns that a tick lights anew, each with the state at its turn. -/
def relightTurns
    (store : Store)
    (cache : LightCache) : List (TickState × ColumnPos) :=
  TickState.relightTurns store.settings.scheduler.lightUpdatesPerTick
    (store.sentDue cache)

/-- Nothing but a tick puts light into a store. -/
theorem Genuine.perform_of_ne_tick
    {store : Store}
    (genuine : store.Genuine)
    {operation : StoreOperation}
    (wellFormed : operation.WellFormed)
    (other : ∀ cache spawned, operation ≠ .tick cache spawned) :
    (store.perform operation).1.Genuine where
  sound := genuine.sound.perform wellFormed
  consistent := genuine.consistent.perform operation
  light := fun pos light known =>
    genuine.light pos light
      ((store.derivesNothing_perform other).light pos light known)

variable
    {store : Store}
    (genuine : store.Genuine)
    {cache : LightCache}
    (kept : cache.Every ColumnLight.InForm)
include genuine kept

theorem Genuine.sentDue : (store.sentDue cache).Genuine :=
  TickState.Genuine.sendDue ⟨genuine, kept⟩ _

/--
A tick sends columns, then the updates that can be seen, and asks for sections
at last.
-/
theorem Genuine.messages_tick (spawned : Bool) :
    (store.tick cache spawned).1.messages =
      (store.sentDue cache).messages.reverse ++
        (store.relightTurns cache).filterMap
          (fun turn => turn.1.visibleUpdate? turn.2) ++
        if spawned then (store.litDue cache).store.requests.map
            .request else [] := by
  have told := ((genuine.sentDue kept).relightDue
    store.settings.scheduler.lightUpdatesPerTick).2
  cases spawned with
  | false =>
      exact (store.tick_of_not_spawned cache).2.trans
        (told.trans (List.append_nil _).symm)
  | true =>
      rw [(store.tick_of_spawned cache).2]
      exact congrArg (· ++ _) told

theorem Genuine.tick (spawned : Bool) :
    (store.tick cache spawned).1.store.Genuine ∧
      (store.tick cache spawned).2.Every ColumnLight.InForm := by
  have lit := ((genuine.sentDue kept).relightDue
    store.settings.scheduler.lightUpdatesPerTick).1
  cases spawned with
  | false => exact ⟨lit.store, lit.cache⟩
  | true =>
      refine ⟨⟨lit.store.sound.congr rfl rfl,
          lit.store.consistent.congr rfl rfl rfl rfl rfl, lit.store.light⟩,
          lit.cache⟩

theorem Genuine.perform
    {operation : StoreOperation}
    (wellFormed : operation.WellFormed) :
    (store.perform (operation.finding cache)).1.Genuine ∧
      (store.cacheAfter cache operation).Every ColumnLight.InForm := by
  cases operation with
  | tick found spawned => exact genuine.tick kept spawned
  | _ =>
      exact ⟨genuine.perform_of_ne_tick wellFormed
        (fun _ _ same => nomatch same), kept⟩

end Store

namespace StoreGroup

variable {ι : Type}

/--
All light in stores that share a cache, and in the cache, is in the form it is
computed in.
-/
structure Genuine (group : StoreGroup ι) : Prop where
  stores : ∀ i, (group.stores i).Genuine
  cache : group.cache.Every ColumnLight.InForm

theorem genuine_create
    (settings : ι → Settings)
    (converters : ι → Converter)
    (capacity : Nat)
    (workers : Option WorkerPool) :
    Genuine
      ⟨fun i =>
        .create (settings i) (converters i), .create capacity workers⟩ where
  stores := fun i => Store.genuine_create (settings i) (converters i)
  cache := LightCache.every_create _ capacity workers

variable [DecidableEq ι]

theorem Genuine.after
    {group : StoreGroup ι}
    (genuine : group.Genuine)
    {turn : ι × StoreOperation}
    (wellFormed : turn.2.WellFormed) :
    (group.after turn).Genuine := by
  obtain ⟨store, cache⟩ :=
    (genuine.stores turn.1).perform genuine.cache wellFormed
  refine ⟨fun i => ?_, cache⟩
  by_cases mine : turn.1 = i
  · subst mine
    rw [stores_after_self]
    exact store
  · rw [stores_after_of_ne group mine]
    exact genuine.stores i

theorem Genuine.foldl_after
    {turns : List (ι × StoreOperation)}
    (wellFormed : ∀ turn ∈ turns, turn.2.WellFormed)
    {group : StoreGroup ι}
    (genuine : group.Genuine) :
    (turns.foldl StoreGroup.after group).Genuine := by
  induction turns generalizing group with
  | nil => exact genuine
  | cons turn rest ih =>
      exact ih
        (fun later member => wellFormed later (List.mem_cons_of_mem _ member))
        (genuine.after (wellFormed turn List.mem_cons_self))

/--
Computed light has one form: all slabs of sky light, and those of block light
that are not dark.  So two results for as many sections differ exactly if some
level does.  Therefore a tick of a store that shares its cache with any others,
whatever happened to them before, sends columns, then for each column that it
lights anew an update exactly if some level is not the one stored, and requests.
-/
theorem canonical_light_and_visible_updates :
    (∀ (properties : LightProperties) (input : LightInput),
      (∀ palette ∈ input.sections, palette.SectionCube) →
        (input.light properties).Canonical input.sections.size) ∧
    (∀ (properties otherProperties : LightProperties)
      (input other : LightInput),
      (∀ palette ∈ input.sections, palette.SectionCube) →
      (∀ palette ∈ other.sections, palette.SectionCube) →
      input.sections.size = other.sections.size →
        ((input.skyLight properties).differs
          (other.skyLight otherProperties) = true ↔
          (input.skyLight properties).LevelsDiffer
            (other.skyLight otherProperties)) ∧
        ((input.blockLight properties).differs
          (other.blockLight otherProperties) = true ↔
          (input.blockLight properties).LevelsDiffer
            (other.blockLight otherProperties)) ∧
        ((input.light properties).differs
          (other.light otherProperties) = true ↔
          (input.light properties).LevelsDiffer
            (other.light otherProperties))) ∧
    ∀ (ι : Type) [DecidableEq ι] (settings : ι → Settings)
      (converters : ι → Converter)
      (capacity : Nat) (workers : Option WorkerPool)
        (turns : List (ι × StoreOperation)),
      (∀ turn ∈ turns, turn.2.WellFormed) → ∀ (i : ι) (spawned : Bool),
        let group := turns.foldl after
          ⟨fun i =>
            .create (settings i) (converters i), .create capacity workers⟩
        let store := group.stores i
        (store.tick group.cache spawned).1.messages =
          (store.sentDue group.cache).messages.reverse ++
            (store.relightTurns group.cache).filterMap
              (fun turn => turn.1.visibleUpdate? turn.2) ++
            if spawned then
                (store.litDue group.cache).store.requests.map
                  .request else [] := by
  refine ⟨fun properties input cubes =>
    input.canonical_light properties cubes, ?_, ?_⟩
  · intro properties otherProperties input other cubes otherCubes sizes
    have form := LightInput.canonical_light properties cubes
    have otherForm := LightInput.canonical_light otherProperties otherCubes
    refine ⟨?_, ?_, form.differs_iff otherForm⟩
    · rw [← sizes] at otherForm
      exact LightData.differs_iff_of_ext (form.sky.eq_of_levels otherForm.sky)
    · rw [← sizes] at otherForm
      exact LightData.differs_iff_of_ext
        (form.block.eq_of_levels otherForm.block)
  · intro ι _ settings converters capacity workers turns wellFormed i spawned
    have genuine :=
      (genuine_create settings converters capacity workers).foldl_after
        wellFormed
    exact (genuine.stores i).messages_tick genuine.cache spawned

/--
A store sends two columns, and sends one of them again once there is a lamp in
it.
-/
def lampChanges : List (Bool × StoreOperation) :=
  [(true, .createColumn ⟨0, 0⟩ 1), (true, .createColumn ⟨1, 0⟩ 1),
    (true, .markDirty ⟨0, 0⟩), (true, .markDirty ⟨1, 0⟩),
    (false, .createColumn ⟨0, 0⟩ 1), (true, .tick (.create 0 none) false),
    (true, .changeBlock ⟨15, 8, 8⟩ 0 2)]

/-- A column of one section with a lamp. -/
def lampColumn : LightInput := .isolated #[LightInput.lampAt 8 8 8]

/-- A column of one section of air. -/
def plainColumn : LightInput := .isolated #[.blocks air]

theorem visible_updates_lampChanges :
    (∀ palette ∈ lampColumn.sections, palette.SectionCube) ∧
      (∀ palette ∈ plainColumn.sections, palette.SectionCube) ∧
      (∀ turn ∈ lampChanges, turn.2.WellFormed) ∧
      (lampColumn.light LightInput.lampProperties).Canonical 1 ∧
      ((lampColumn.light LightInput.lampProperties).differs
          (plainColumn.light LightInput.lampProperties) = true ↔
        (lampColumn.light LightInput.lampProperties).LevelsDiffer
          (plainColumn.light LightInput.lampProperties)) ∧
      let group := lampChanges.foldl after
        ⟨fun _ => .create .standard Store.lampConverter, .create 64 none⟩
      let store := group.stores true
      (store.tick group.cache false).1.messages =
        (store.sentDue group.cache).messages.reverse ++
          (store.relightTurns group.cache).filterMap
            (fun turn => turn.1.visibleUpdate? turn.2) ++ [] := by
  have lamp : ∀ palette ∈ lampColumn.sections, palette.SectionCube :=
    (LightInput.sectionCube_lampAt (by decide) (by decide)
      (by decide)).forall_mem_singleton
  have plain : ∀ palette ∈ plainColumn.sections, palette.SectionCube :=
    (Palette.sectionCube_blocks air).forall_mem_singleton
  have wellFormed : ∀ turn ∈ lampChanges, turn.2.WellFormed := by
    simp [lampChanges, StoreOperation.WellFormed]
  obtain ⟨canonical, differs, updates⟩ := canonical_light_and_visible_updates
  exact ⟨lamp, plain, wellFormed, canonical LightInput.lampProperties _ lamp,
    (differs LightInput.lampProperties LightInput.lampProperties _ _ lamp
      plain rfl).2.2,
    updates Bool (fun _ => .standard) (fun _ => Store.lampConverter) 64 none
      lampChanges wellFormed true false⟩

end StoreGroup

end VoxelRelay
