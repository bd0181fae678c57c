import VoxelRelay.Proofs.ChangedCells
import VoxelRelay.Proofs.RecordHomes

/-!
# What a block change leaves alone

A block change that is applied writes one cell of one layer.  Layers that it
has to add are of air, which is what was read in them before, and the tables of
a layer may be widened or compacted without any other cell noticing.  A change
that is logged, or that finds no section, writes no cell at all.  Beside cells,
at most the record at the position of the change is touched.
-/

namespace VoxelRelay

open Palette

/-! ## Positions -/

/-- A coordinate is known by its section and its place in it. -/
theorem coordinate_inj
    {block other : Int32}
    (quotient : sectionCoordinate block = sectionCoordinate other)
    (remainder : localCoordinate block = localCoordinate other) :
    block = other := by
  rw [← sectionCoordinate_mul_add block, ← sectionCoordinate_mul_add other,
    quotient, remainder]

/-- A position is known by its section and its place in it. -/
theorem BlockPos.eq_of_inSection
    {pos other : BlockPos}
    (home : pos.sectionPos = other.sectionPos)
    (place : pos.inSection = other.inSection) :
    pos = other := by
  obtain ⟨x, y, z⟩ := pos
  obtain ⟨x', y', z'⟩ := other
  simp only [sectionPos, SectionPos.mk.injEq] at home
  simp only [inSection, Prod.mk.injEq] at place
  rw [coordinate_inj home.1 place.1, coordinate_inj home.2.1 place.2.1,
    coordinate_inj home.2.2 place.2.2]

/-- No two heights have the same slot. -/
theorem Store.slot?_inj
    {store : Store}
    {sectionY other : Int32}
    {slot : Nat}
    (first : store.slot? sectionY = some slot)
    (second : store.slot? other = some slot) :
    sectionY = other := by
  have same := (ofNat_slot first).symm.trans (ofNat_slot second)
  rw [← Int32.sub_add_cancel sectionY (sectionCoordinate store.minY), same,
    Int32.sub_add_cancel]

/-! ## Sections -/

namespace Section

/-- The tables of all layers can be indexed. -/
def Addressable (content : Section) : Prop :=
  ∀ palette ∈ content.layers, palette.ids.size ≤ 2 ^ 16

/-- The block at a place of a layer, air where there is none. -/
def readOr
    (content : Section)
    (sourceAir : UInt32)
    (layer : Nat)
    (place : Place) : UInt32 :=
  (content.blockAt? layer place.1 place.2.1 place.2.2).getD sourceAir

variable {content : Section} {sourceAir : UInt32}

/-- In layers of air that are added one reads what was read there before. -/
theorem readOr_padLayers
    (count layer : Nat)
    (place : Place) :
    (content.padLayers count sourceAir).readOr sourceAir layer place =
      content.readOr sourceAir layer place := by
  rw [readOr, readOr, blockAt?, blockAt?, layer?_padLayers]
  by_cases there : layer < content.layers.size
  · rw [if_pos there]
  · have missing : content.layer? layer = none :=
      Array.getElem?_eq_none (Nat.not_lt.1 there)
    rw [if_neg there, missing]
    split
    · exact read_filled blockEdgeBits sourceAir place
    · rfl

/-- An edit writes one place of one layer. -/
theorem readOr_edited
    (checked : content.Checked)
    (addressable : content.Addressable)
    {edit : Edit}
    (shallow : edit.layer < maxLayers)
    (inside : edit.Inside)
    (layer : Nat)
    {place : Place}
    (within : place ∈ placesOf 16) :
    (content.edited sourceAir edit).readOr sourceAir layer place =
      if layer = edit.layer ∧ place = (edit.x, edit.y, edit.z) then edit.id
      else content.readOr sourceAir layer place := by
  let padded := content.padLayers (edit.layer + 1) sourceAir
  have written : (content.edited sourceAir edit).layer? layer =
      if edit.layer = layer then
        (padded.layer? layer).map (·.write (edit.x, edit.y, edit.z) edit.id)
      else padded.layer? layer := by
    rw [layer?, layers_edited shallow, Array.getElem?_modify]
    rfl
  rw [← @readOr_padLayers content sourceAir (edit.layer + 1) layer place,
    readOr, blockAt?, written, readOr, blockAt?]
  by_cases own : edit.layer = layer
  · subst own
    obtain ⟨palette, found⟩ :
        ∃ palette, padded.layer? edit.layer = some palette :=
      ⟨_,
        Array.getElem?_eq_getElem
          (content.lt_size_padLayers edit.layer sourceAir)⟩
    have member : palette ∈ padded.layers := Array.mem_of_getElem? found
    have cube := cubes_padLayers checked.cubes _ sourceAir palette member
    have writable : palette.Writable :=
      cube.writable
        (size_ids_padLayers_le (by decide) addressable _ palette member)
    have here : (edit.x, edit.y, edit.z) ∈ placesOf 16 :=
      mem_placesOf_iff.2 inside
    have read :=
      (writable.rewritten_write (cube.inside_iff.2 here) edit.id).read_eq
        place (cube.inside_iff.2 within)
    rw [if_pos rfl, found, Option.map_some, Option.map_some, Option.getD_some]
    refine read.trans ?_
    rw [Function.update_apply]
    exact if_congr (and_iff_right rfl).symm rfl rfl
  · rw [if_neg own, if_neg fun both => own both.1.symm]

end Section

/-! ## Columns -/

/--
Two columns differ in their sections and in the record at one position at
most.
-/
structure Column.AgreesBut (pos : BlockPos) (old column : Column) : Prop where
  pos_eq : column.pos = old.pos
  declared_eq : column.declared = old.declared
  kept_iff : ∀ record : SourceEntity, record.position ≠ pos →
    (record ∈ column.entities ↔ record ∈ old.entities)
  found_eq : ∀ other, other ≠ pos →
    column.entityAt? other = old.entityAt? other

namespace Column

variable {column : Column}

theorem agreesBut_self
    (pos : BlockPos)
    (column : Column) :
    AgreesBut pos column column :=
  ⟨rfl, rfl, fun _ _ => Iff.rfl, fun _ _ => rfl⟩

theorem agreesBut_modifySection
    (pos : BlockPos)
    (column : Column)
    (slot : Nat)
    (change : Section → Section) :
    AgreesBut pos column (column.modifySection slot change) :=
  ⟨rfl, rfl, fun _ _ => Iff.rfl, fun _ _ => rfl⟩

theorem declared_removeEntityAt
    (column : Column)
    (pos : BlockPos) :
    (column.removeEntityAt pos).declared = column.declared := by
  rw [removeEntityAt]
  split <;> rfl

theorem agreesBut_removeEntityAt
    (distinct : column.Distinct)
    (pos : BlockPos) :
    AgreesBut pos column (column.removeEntityAt pos) where
  pos_eq := column.pos_removeEntityAt pos
  declared_eq := column.declared_removeEntityAt pos
  kept_iff _ apart :=
    (mem_entities_removeEntityAt_iff distinct).trans (and_iff_left apart)
  found_eq other apart :=
    (entityAt?_removeEntityAt distinct pos other).trans
      (if_neg (Ne.symm apart))

theorem agreesBut_updated
    (distinct : column.Distinct)
    (table : MappingTable)
    (slot : Nat)
    (update : BlockUpdate) :
    AgreesBut update.pos column (column.updated table slot update) := by
  rw [updated]
  split
  · rw [removeEntityAt_modifySection]
    -- Records do not matter to sections, so the two steps may change places.
    have cleared := agreesBut_removeEntityAt distinct update.pos
    exact ⟨cleared.pos_eq, cleared.declared_eq, cleared.kept_iff,
      cleared.found_eq⟩
  · exact agreesBut_modifySection _ column slot _

end Column

/-! ## Stores -/

namespace Store

/-- What a change can come to, and the store that it leaves. -/
inductive Fate
    (store : Store)
    (update : BlockUpdate) : BlockChange → Store → Prop
  | refused {value : BlockChange}
      (reason : value = .invalidLayer update.layer ∨ value = .unloaded) :
      Fate store update value store
  | deferred {column : Column} {slot : Nat} {content : Section}
      {after : Store}
      (holds : store.Holds update.pos column slot content)
      (revised : store.Revised update.pos.sectionPos.column
        (column.logged slot update) after) :
      Fate store update .deferred after
  | applied {column : Column} {slot : Nat} {content : Section}
      {destination : UInt32}
      {entity : Option TargetEntity}
        (meets : store.Meets update column slot content) :
      Fate store update (.applied destination entity) (store.after update)

theorem fate_changeBlock
    (store : Store)
    (update : BlockUpdate) :
    store.Fate update
      (store.changeBlock update.pos update.layer update.source).value
      (store.after update) := by
  rw [after]
  by_cases shallow : update.layer < maxLayers
  · cases there : store.section? update.pos.sectionPos with
    | none =>
        rw [changeBlock, if_neg (Nat.not_le.2 shallow), there]
        exact .refused (.inr rfl)
    | some content =>
        have whole := there
        simp only [section?, Option.bind_eq_bind, Option.bind_eq_some_iff]
          at whole
        obtain ⟨slot, inside, column, loaded, found⟩ := whole
        have holds : store.Holds update.pos column slot content :=
          ⟨loaded, inside, found⟩
        cases waiting : content.pending with
        | none =>
            have meets : store.Meets update column slot content :=
              ⟨holds, waiting, shallow⟩
            obtain ⟨entity, answered⟩ := meets.exists_value_changeBlock
            rw [answered]
            exact .applied meets
        | some log =>
            have current := revised_self (columns_of_column? loaded)
            obtain ⟨logged, revised⟩ :=
              current.changeBlock_of_awaiting (loads_of_column? loaded)
                inside found shallow rfl waiting
            rw [logged]
            exact .deferred holds revised
  · rw [changeBlock, if_pos (Nat.not_lt.1 shallow)]
    exact .refused (.inl rfl)

/-- A column of which one section was changed is otherwise read as before. -/
theorem Revised.section?_of_modified
    {base store : Store}
    {place : SectionPos}
    {old column : Column}
    {slot : Nat}
    {change : Section → Section}
    (revised : base.Revised place.column column store)
    (loaded : base.column? place.column = some old)
    (inside : base.slot? place.y = some slot)
    (modified : column.sections = old.sections.modify slot change)
    (other : SectionPos) :
    store.section? other =
      if other = place then (base.section? other).map change
      else base.section? other := by
  have slots := slot?_congr revised.settings_eq other.y
  by_cases home : other.column = place.column
  · have now := revised.column?_self (loads_of_column? loaded)
    cases here : base.slot? other.y with
    | none =>
        have apart : other ≠ place := by
          rintro rfl
          rw [inside] at here
          cases here
        rw [if_neg apart, section?, section?, slots, here]
        rfl
    | some index =>
        have before : base.section? other = old.section? index := by
          rw [section?, here, home, loaded]
          rfl
        have after : store.section? other = column.section? index := by
          rw [section?, slots, here, home, now]
          rfl
        have same : slot = index ↔ other = place := by
          constructor
          · rintro rfl
            have height : other.y = place.y := slot?_inj here inside
            obtain ⟨x, y, z⟩ := other
            obtain ⟨x', y', z'⟩ := place
            obtain ⟨rfl, rfl⟩ := ColumnPos.mk.inj home
            exact congrArg (SectionPos.mk _ · _) height
          · rintro rfl
            exact Option.some.inj (inside.symm.trans here)
        rw [before, after, Column.section?, modified, Array.getElem?_modify,
          ← Column.section?]
        exact if_congr same rfl rfl
  · have apart : other ≠ place :=
      fun same => home (congrArg SectionPos.column same)
    rw [if_neg apart, section?, section?, slots, revised.column?_of_ne home]

theorem Holds.section?_eq
    {store : Store}
    {pos : BlockPos}
    {column : Column}
    {slot : Nat}
    {content : Section}
    (holds : store.Holds pos column slot content) :
    store.section? pos.sectionPos = some content :=
  (revised_self (columns_of_column? holds.loaded)).section?_eq
    (loads_of_column? holds.loaded) holds.inside holds.found

theorem blockAt_eq_readOr
    (store : Store)
    (layer : Nat)
    (pos : BlockPos) :
    store.blockAt layer pos =
      ((store.section? pos.sectionPos).map fun content =>
        content.readOr store.table.sourceAir layer pos.inSection).getD
          store.table.sourceAir := by
  rw [blockAt]
  cases store.section? pos.sectionPos <;> rfl

section

variable
    {store : Store}
    {update : BlockUpdate}
    {column : Column}
    {slot : Nat}
    {content : Section}

/-- A change that is applied writes one cell of one layer. -/
theorem Meets.blockAt_after_eq
    (meets : store.Meets update column slot content)
    (checked : content.Checked)
    (addressable : content.Addressable)
    (layer : Nat)
    (pos : BlockPos) :
    (store.after update).blockAt layer pos =
      if layer = update.layer ∧ pos = update.pos then update.source
      else store.blockAt layer pos := by
  have revised := meets.revised
  rw [blockAt_eq_readOr, blockAt_eq_readOr, revised.table_eq,
    revised.section?_of_modified meets.loaded meets.inside
      (Column.sections_updated store.table slot column update)]
  by_cases home : pos.sectionPos = update.pos.sectionPos
  · have found : store.section? pos.sectionPos = some content := by
      rw [home]
      exact (revised_self (columns_of_column? meets.loaded)).section?_eq
        (loads_of_column? meets.loaded) meets.inside meets.found
    have place : pos.inSection = update.pos.inSection ↔ pos = update.pos :=
      ⟨BlockPos.eq_of_inSection home, congrArg BlockPos.inSection⟩
    rw [if_pos home, found, Option.map_some, Option.map_some,
      Option.getD_some, Option.map_some, Option.getD_some,
      Section.readOr_edited checked addressable meets.layer update.inside_edit
        layer (mem_placesOf_iff.2 ⟨localCoordinate_lt _, localCoordinate_lt _,
          localCoordinate_lt _⟩)]
    exact if_congr (and_congr_right fun _ => place) rfl rfl
  · have apart : pos ≠ update.pos :=
      fun same => home (congrArg BlockPos.sectionPos same)
    rw [if_neg home, if_neg fun both => apart both.2]

end

/-- A change that is logged writes no cell. -/
theorem Holds.blockAt_logged
    {store after : Store}
    {update : BlockUpdate}
    {column : Column}
    {slot : Nat}
    {content : Section}
    (holds : store.Holds update.pos column slot content)
    (revised : store.Revised update.pos.sectionPos.column
      (column.logged slot update) after)
    (layer : Nat)
    (pos : BlockPos) :
    after.blockAt layer pos = store.blockAt layer pos := by
  rw [blockAt_eq_readOr, blockAt_eq_readOr, revised.table_eq,
    revised.section?_of_modified holds.loaded holds.inside
      (show _ = column.sections.modify slot (·.logged update.edit) from rfl)]
  split
  · rw [Option.map_map]
    rfl
  · rfl

/--
Two stores differ in one column at most, and there only around one position.
-/
structure AgreesBut (pos : BlockPos) (store after : Store) : Prop where
  rest_eq : after = { store with columns := after.columns }
  elsewhere : ∀ other, other ≠ pos.column →
    after.columns[other]? = store.columns[other]?
  here :
    Option.Rel (Column.AgreesBut pos) store.columns[pos.column]?
      after.columns[pos.column]?

theorem Revised.agreesBut
    {store after : Store}
    {pos : BlockPos}
    {old column : Column}
    (revised : store.Revised pos.column column after)
    (known : store.columns[pos.column]? = some old)
    (agrees : Column.AgreesBut pos old column)
    (rest : after = { store with columns := after.columns }) :
    store.AgreesBut pos after where
  rest_eq := rest
  elsewhere := revised.elsewhere
  here := by
    rw [known, revised.here]
    exact .some agrees

theorem Fate.agreesBut
    {store after : Store}
    {update : BlockUpdate}
    {value : BlockChange}
    (fate : store.Fate update value after)
    (distinct : ∀ column, store.columns[update.pos.column]? = some column →
      column.Distinct)
    (rest : after = { store with columns := after.columns }) :
    store.AgreesBut update.pos after := by
  cases fate with
  | refused reason =>
      refine ⟨rest, fun _ _ => rfl, ?_⟩
      cases store.columns[update.pos.column]? with
      | none => exact .none
      | some column => exact .some (column.agreesBut_self update.pos)
  | @deferred column slot content after holds revised =>
      exact revised.agreesBut (columns_of_column? holds.loaded)
        (Column.agreesBut_modifySection update.pos column slot _) rest
  | @applied column slot content destination entity meets =>
      have known := columns_of_column? meets.loaded
      exact meets.revised.agreesBut known
        (Column.agreesBut_updated (distinct column known) store.table slot
          update) rest

/-- Records of other positions are found as before. -/
theorem AgreesBut.entityAt?_eq
    {store after : Store}
    {pos : BlockPos}
    (agrees : store.AgreesBut pos after)
    {other : BlockPos}
    (apart : other ≠ pos) :
    after.entityAt? other = store.entityAt? other := by
  have view : after.view = store.view := by rw [agrees.rest_eq]
  rw [entityAt?, entityAt?, column?, column?, view]
  by_cases home : other.column = pos.column
  · have here := agrees.here
    rw [← home] at here
    generalize store.columns[other.column]? = old,
      after.columns[other.column]? = new at here ⊢
    split
    · cases here with
      | some agrees => exact agrees.found_eq other apart
      | none => rfl
    · rfl
  · rw [agrees.elsewhere other.column home]

/-- The tables of all layers can be indexed. -/
def Addressable (store : Store) : Prop :=
  ∀ (pos : ColumnPos) (column : Column), store.columns[pos]? = some column →
    ∀ content ∈ column.sections, content.Addressable

/--
In whatever state a store is reached whose tables can be indexed, a change that
is applied gives one cell of one layer its block, and every other change gives
none.  Beside the cell nothing is different but the record at its position: not
another record, not another column, and nothing that waits, was sent or is
wanted.
-/
theorem changeBlock_frame_run
    {settings : Settings}
    {converter : Converter}
    {operations : List StoreOperation}
    (delivers : ∀ operation ∈ operations, operation.DeliversWellFormed)
    (addressable : ((create settings converter).run operations).Addressable)
    (pos : BlockPos)
    (layer : Nat)
    (source : UInt32) :
    let store := (create settings converter).run operations
    let outcome := store.changeBlock pos layer source
    (∀ otherLayer otherPos, outcome.store.blockAt otherLayer otherPos =
      match outcome.value with
      | .applied _ _ =>
          if otherLayer = layer ∧ otherPos = pos then source
          else store.blockAt otherLayer otherPos
      | _ => store.blockAt otherLayer otherPos) ∧
    (∀ other, other ≠ pos →
      outcome.store.entityAt? other = store.entityAt? other) ∧
    store.AgreesBut pos outcome.store := by
  intro store outcome
  have fate : store.Fate ⟨pos, layer, source⟩ outcome.value outcome.store :=
    store.fate_changeBlock ⟨pos, layer, source⟩
  have agrees : store.AgreesBut pos outcome.store :=
    fate.agreesBut
      (fun column known =>
        (keeps_run settings converter operations known).distinct)
        (store.changeBlock_eq pos layer source)
  refine ⟨fun otherLayer otherPos => ?_, fun other apart =>
    agrees.entityAt?_eq apart, agrees⟩
  generalize outcome.value = value, outcome.store = after at fate
  cases fate with
  | refused reason =>
      rcases reason with rfl | rfl <;> rfl
  | deferred holds revised =>
      exact holds.blockAt_logged revised otherLayer otherPos
  | @applied column slot content destination entity meets =>
      have known := columns_of_column? meets.loaded
      have checked := checked_run delivers known meets.found
      exact meets.blockAt_after_eq checked
        (addressable _ column known content
          (Array.mem_of_getElem? meets.found)) otherLayer otherPos

/-- Water comes next to where the chest of the cellar is. -/
def leak : BlockUpdate := ⟨⟨2, 2, 3⟩, 1, 6⟩

/-- The sections of the cellar have no layers before the first change. -/
theorem addressable_cellarStore : (cellarStore []).Addressable := by
  have blank : ∀ (pos : ColumnPos) (column : Column),
    (cellarStore []).columns[pos]? = some column →
      ∀ content ∈ column.sections, content.layers = #[] := by
    refine columns_run (fun pos count declared content member => ?created)
      (fun operation member store pos old column change blank => ?changed)
      (fun pos column known => absurd known (by simp [create]))
    case created =>
      obtain ⟨slot, -, rfl⟩ := Array.mem_map.1 member
      split <;> rfl
    case changed =>
      cases change with
      | kept => exact blank
      | recorded => rwa [Column.putEntity, Column.sections_removeEntityAt]
      | logged | updated | filled => simp [cellarRun] at member
  intro pos column known content member palette layer
  rw [blank pos column known content member] at layer
  exact absurd layer (Array.not_mem_empty palette)

/--
The leak adds two layers to its section: above one reads water, below air as
before, and the chest keeps its record.
-/
theorem changeBlock_frame_leak :
    (∀ operation ∈ cellarRun [], operation.DeliversWellFormed) ∧
      (cellarStore []).Addressable ∧
      ((cellarStore []).after leak).blockAt 1 leak.pos = 6 ∧
      ((cellarStore []).after leak).blockAt 0 leak.pos = 0 ∧
      ((cellarStore []).after leak).entityAt? ⟨1, 2, 3⟩ =
        some cellarRecord := by
  have here : ∀ other ∈ [leak], other.pos.sectionPos = ⟨0, 0, 0⟩ ∧
      other.layer < maxLayers := by
    decide
  have meets := meets_cellarStore here
  have before : (cellarStore []).blockAt 0 leak.pos = 0 := by
    rw [blockAt_eq_readOr, meets.section?_eq]
    exact sourceAir_cellarStore []
  obtain ⟨entity, answered⟩ := meets.exists_value_changeBlock
  obtain ⟨cells, records, -⟩ := changeBlock_frame_run (delivers_cellarRun [])
    addressable_cellarStore leak.pos leak.layer leak.source
  have written (layer : Nat) (pos : BlockPos) :
      ((cellarStore []).after leak).blockAt layer pos =
        if layer = 1 ∧ pos = leak.pos then 6
        else (cellarStore []).blockAt layer pos := by
    have cell := cells layer pos
    rw [← cellarStore, answered] at cell
    exact cell
  refine ⟨delivers_cellarRun [], addressable_cellarStore, ?_, ?_, ?_⟩
  · rw [written, if_pos ⟨rfl, rfl⟩]
  · rw [written, if_neg (by decide), before]
  · refine (records ⟨1, 2, 3⟩ (by decide)).trans ?_
    have loaded : (cellarStore []).column? (⟨1, 2, 3⟩ : BlockPos).column =
        some (changedCellar []) := meets.loaded
    rw [← cellarStore, entityAt?, loaded]
    exact entityAt?_changedCellar []

end Store

end VoxelRelay
