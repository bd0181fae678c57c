import VoxelRelay.Proofs.CellPositions
import VoxelRelay.Proofs.CheckedChanges
import VoxelRelay.Proofs.SharedCache

/-!
# Sections that are refused

A delivered section has to pass four checks, one after the other: it has to be
under way, its column has to be shown, the world has to reach its height, and
its shape has to be right.  `Verdict` says what becomes of a delivery by the
first check that it does not pass, and this is what a store answers.  A refusal
leaves the store as it was, except that the section is no longer under way.  A
section that passes all checks finds its slot in the column, since every column
of a store is as high as its world.
-/

namespace VoxelRelay

namespace Store

/-! ## Heights -/

/-- How many sections a height lies above the lowest one of the world. -/
def sectionsAbove (store : Store) (sectionY : Int32) : Int :=
  sectionY.toInt - store.minY.toInt / 16

/--
A height is no further from the lowest section than a coordinate can tell.
-/
def Measures (store : Store) (sectionY : Int32) : Prop :=
  -2 ^ 31 ≤ store.sectionsAbove sectionY ∧
  store.sectionsAbove sectionY < 2 ^ 31

/-- The world has sections at a height. -/
def Reaches (store : Store) (sectionY : Int32) : Prop :=
  0 ≤ store.sectionsAbove sectionY ∧
  store.sectionsAbove sectionY < store.sectionCount

variable {store : Store} {sectionY : Int32}

theorem toInt_sub_sectionCoordinate (measures : store.Measures sectionY) :
    (sectionY - sectionCoordinate store.minY).toInt =
      store.sectionsAbove sectionY := by
  obtain ⟨low, high⟩ := measures
  rw [Int32.toInt_sub, toInt_sectionCoordinate, ← sectionsAbove,
    Int.bmod_eq_of_le (by omega) (by omega)]

/-- A height has a slot exactly if the world reaches it. -/
theorem slot?_eq_none_iff (measures : store.Measures sectionY) :
    store.slot? sectionY = none ↔ ¬ store.Reaches sectionY := by
  have above := toInt_sub_sectionCoordinate measures
  simp only [slot?, above, Reaches, ite_eq_right_iff, reduceCtorEq, imp_false]
  omega

/-! ## The verdict on a delivery -/

/--
What becomes of a delivered section, by the first check that it does not pass.
-/
inductive Verdict
    (store : Store)
    (pos : SectionPos)
    (content : Section) : Except MergeError Unit → Prop
  | notRequested (absent : pos ∉ store.inFlight) :
      Verdict store pos content (.error (.notRequested pos))
  | columnNotLoaded (asked : pos ∈ store.inFlight)
      (hidden : store.column? pos.column = none) :
      Verdict store pos content (.error (.columnNotLoaded pos))
  | outsideWorld (asked : pos ∈ store.inFlight)
      (shown : (store.column? pos.column).isSome = true)
      (outside : ¬ store.Reaches pos.y) :
      Verdict store pos content (.error (.outsideWorld pos))
  | malformed (asked : pos ∈ store.inFlight)
      (shown : (store.column? pos.column).isSome = true)
      (reached : store.Reaches pos.y)
      {cause : ShapeError} (shape : content.checkShape = .error cause) :
      Verdict store pos content (.error (.malformed pos cause))
  | taken (asked : pos ∈ store.inFlight)
      (shown : (store.column? pos.column).isSome = true)
      (reached : store.Reaches pos.y)
      (shape : content.checkShape = .ok ()) :
      Verdict store pos content (.ok ())

variable {pos : SectionPos} {content : Section}

/-- No two verdicts can be given. -/
theorem Verdict.unique
    {value other : Except MergeError Unit}
    (first : store.Verdict pos content value)
    (second : store.Verdict pos content other) :
    value = other := by
  cases first <;> cases second <;> simp_all

/-- What a delivery answers depends on whether its section is accepted. -/
theorem value_mergeSection (entities : List SourceEntity) :
    (store.mergeSection pos content entities).value =
      (store.accept pos content).map fun _ => () := by
  rw [mergeSection]
  cases store.accept pos content <;> rfl

/-- The checks of a delivered section are made in order. -/
theorem verdict_accept (measures : store.Measures pos.y) :
    store.Verdict pos content
      ((store.accept pos content).map fun _ => ()) := by
  by_cases asked : pos ∈ store.inFlight
  · cases shown : store.isLoaded pos.column with
    | false =>
        rw [accept, Std.TreeSet.contains_iff_mem.2 asked, shown]
        exact .columnNotLoaded asked
          (Option.not_isSome_iff_eq_none.1 (Bool.eq_false_iff.1 shown))
    | true =>
        cases inside : store.slot? pos.y with
        | none =>
            rw [accept, Std.TreeSet.contains_iff_mem.2 asked, shown, inside]
            exact .outsideWorld asked shown
              ((slot?_eq_none_iff measures).1 inside)
        | some slot =>
            have reached : store.Reaches pos.y := by
              by_contra outside
              rw [(slot?_eq_none_iff measures).2 outside] at inside
              cases inside
            cases shape : content.checkShape with
            | error cause =>
                rw [accept, Std.TreeSet.contains_iff_mem.2 asked, shown,
                  inside, shape]
                exact .malformed asked shown reached shape
            | ok =>
                rw [accept_eq_ok asked shown inside shape]
                exact .taken asked shown reached shape
  · have absent : store.inFlight.contains pos = false := by
      rw [Bool.eq_false_iff]
      exact fun held => asked (Std.TreeSet.contains_iff_mem.1 held)
    rw [accept, absent]
    exact .notRequested asked

/-- A delivery is answered with the verdict on it, and with nothing else. -/
theorem value_mergeSection_eq_iff
    (measures : store.Measures pos.y)
    (entities : List SourceEntity)
    {value : Except MergeError Unit} :
    (store.mergeSection pos content entities).value = value ↔
      store.Verdict pos content value := by
  have verdict := @verdict_accept store pos content measures
  rw [← value_mergeSection entities] at verdict
  constructor
  · rintro rfl
    exact verdict
  · exact verdict.unique

/-- A section that is refused is no longer under way, and that is all. -/
theorem mergeSection_of_refused
    {entities : List SourceEntity}
    {refusal : MergeError}
    (refused : (store.mergeSection pos content entities).value =
      .error refusal) :
    store.mergeSection pos content entities =
      ⟨{ store with inFlight := store.inFlight.erase pos }, .error refusal,
        [], [refusal.warning]⟩ := by
  cases verdict : store.accept pos content with
  | error cause =>
      simp only [mergeSection, verdict, Except.error.injEq] at refused ⊢
      rw [refused]
  | ok slot =>
      rw [(mergeSection_of_accept verdict entities).1] at refused
      cases refused

/-- To end what is not under way changes nothing. -/
theorem equiv_erase_of_notMem (absent : pos ∉ store.inFlight) :
    (store.inFlight.erase pos).Equiv store.inFlight := by
  refine .of_forall_mem_iff fun other => ?_
  rw [Std.TreeSet.mem_erase, and_iff_right_iff_imp]
  intro asked same
  exact absent (Std.LawfulEqCmp.eq_of_compare same ▸ asked)

end Store

/-! ## Columns as high as the world -/

/-- No change of a column changes its height. -/
theorem Store.ColumnChange.size_sections
    {store : Store}
    {pos : ColumnPos}
    {old column : Column}
    {operation : StoreOperation}
    (change : store.ColumnChange pos old operation column) :
    column.sections.size = old.sections.size := by
  cases change with
  | kept => rfl
  | logged => exact Array.size_modify
  | updated => rw [Column.sections_updated, Array.size_modify]
  | recorded => exact congrArg Array.size (old.sections_removeEntityAt _)
  | filled =>
      rw [Column.fill_eq, Column.modifySection, Array.size_modify,
        Column.sections_foldl_putEntity]

namespace Store

/-- All columns of a store are as high as its world. -/
def High (store : Store) : Prop :=
  ∀ (pos : ColumnPos) (column : Column), store.columns[pos]? = some column →
    column.sections.size = store.sectionCount

theorem high_run
    (settings : Settings)
    (converter : Converter)
    (operations : List StoreOperation) :
    ((create settings converter).run operations).High := by
  refine run_induction High (fun store operation high => ?_)
    (fun _ _ known => ?_) operations
  · intro pos column known
    rw [sectionCount, (store.sameTables_perform operation).settings_eq,
      ← sectionCount]
    rcases columnChange_of_perform known with
      ⟨declared, -, rfl⟩ | ⟨old, before, change⟩
    · simp [Column.create]
    · exact change.size_sections.trans (high pos old before)
  · simp [create] at known

/--
In columns as high as the world every height that the world reaches has its
slot.
-/
theorem High.exists_section?
    {store : Store}
    (high : store.High)
    {pos : SectionPos}
    (measures : store.Measures pos.y)
    (shown : (store.column? pos.column).isSome = true)
    (reached : store.Reaches pos.y) :
    ∃ column slot current, store.column? pos.column = some column ∧
      store.slot? pos.y = some slot ∧
        column.section? slot = some current := by
  obtain ⟨column, loaded⟩ := Option.isSome_iff_exists.1 shown
  obtain ⟨slot, inside⟩ : ∃ slot, store.slot? pos.y = some slot :=
    Option.ne_none_iff_exists'.1 fun missing =>
      (slot?_eq_none_iff measures).1 missing reached
  have below : slot < column.sections.size := by
    rw [high pos.column column (columns_of_column? loaded)]
    exact slot_lt_of_slot? inside
  exact ⟨column, slot, column.sections[slot], loaded, inside,
    Array.getElem?_eq_getElem below⟩

/-! ## Runs -/

/--
In whatever state a store is reached, a delivered section is answered with the
first check that it does not pass, and taken in if it passes them all; its slot
is then there.  One that was not under way changes nothing, and of one that is
refused for another reason nothing is left but that it is no longer under way.
-/
theorem verdict_mergeSection_run
    (settings : Settings)
    (converter : Converter)
    (operations : List StoreOperation)
    (pos : SectionPos)
    (content : Section)
    (entities : List SourceEntity) :
    let store := (create settings converter).run operations
    let outcome := store.mergeSection pos content entities
    store.Measures pos.y →
      (∀ value, outcome.value = value ↔ store.Verdict pos content value) ∧
      (outcome.value = .ok () →
        ∃ column slot current, store.column? pos.column = some column ∧
        store.slot? pos.y = some slot ∧ column.section? slot = some current) ∧
      (∀ refusal, outcome.value = .error refusal → outcome.messages = [] ∧
        outcome.store = { store with inFlight := store.inFlight.erase pos }) ∧
      (outcome.value = .error (.notRequested pos) →
        outcome.store.inFlight.Equiv store.inFlight) := by
  intro store outcome measures
  refine ⟨fun value =>
    value_mergeSection_eq_iff measures entities, ?_, ?_, ?_⟩
  · intro taken
    cases (value_mergeSection_eq_iff measures entities).1 taken with
    | taken asked shown reached shape =>
        exact (high_run settings converter operations).exists_section?
          measures shown reached
  · intro refusal refused
    rw [show outcome = _ from mergeSection_of_refused refused]
    exact ⟨rfl, rfl⟩
  · intro refused
    cases (value_mergeSection_eq_iff measures entities).1 refused with
    | notRequested absent =>
        rw [show outcome = _ from mergeSection_of_refused refused]
        exact equiv_erase_of_notMem absent

/--
Three sections are asked for, one of them far above the world; then a column
goes.
-/
def refusingRun : List StoreOperation :=
  [.createColumn ⟨0, 0⟩ 0, .createColumn ⟨1, 0⟩ 0, .want ⟨0, 0, 0⟩,
    .want ⟨0, 100, 0⟩, .want ⟨1, 0, 0⟩, .tick (.create 0 none) true,
    .unloadColumn ⟨1, 0⟩]

def refusingStore : Store := (create .standard bareConverter).run refusingRun

/-- A section whose layer is no cube of sixteen. -/
def flatSection : Section := .ofLayers #[.biomes 5000] none

theorem checkShape_flatSection :
    flatSection.checkShape = .error (.layerEdge 0 4) := by cbv

/-- The lowest sections of the store lie four below the origin. -/
theorem sectionsAbove_refusingStore (sectionY : Int32) :
    refusingStore.sectionsAbove sectionY = sectionY.toInt + 4 := by
  have bottom : refusingStore.minY.toInt / 16 = -4 := by decide
  rw [sectionsAbove, bottom, sub_neg_eq_add]

theorem measures_refusingStore :
    ∀ sectionY ∈ [(0 : Int32), 1, 100], refusingStore.Measures sectionY := by
  intro sectionY member
  rw [Measures, sectionsAbove_refusingStore]
  simp only [List.mem_cons, List.not_mem_nil, or_false] at member
  rcases member with rfl | rfl | rfl <;> decide

theorem reaches_refusingStore (sectionY : Int32) :
    refusingStore.Reaches sectionY ↔
      0 ≤ sectionY.toInt + 4 ∧ sectionY.toInt + 4 < 24 := by
  rw [Reaches, sectionsAbove_refusingStore]
  rfl

theorem inFlight_refusingStore :
    refusingStore.inFlight.toList = [⟨0, 0, 0⟩, ⟨0, 100, 0⟩, ⟨1, 0, 0⟩] := by
  decide +kernel

theorem column?_refusingStore :
    (refusingStore.column? ⟨0, 0⟩).isSome = true ∧
      refusingStore.column? ⟨1, 0⟩ = none := by
  refine ⟨by decide +kernel,
    Option.not_isSome_iff_eq_none.1 (by decide +kernel)⟩

/-- A section is refused for each of the four reasons. -/
theorem verdict_mergeSection_refusingRun :
    (∀ sectionY ∈ [(0 : Int32), 1, 100], refusingStore.Measures sectionY) ∧
      ((refusingStore.mergeSection ⟨0, 1, 0⟩ flatSection []).value =
          .error (.notRequested ⟨0, 1, 0⟩) ∧
        (refusingStore.mergeSection ⟨1, 0, 0⟩ flatSection []).value =
          .error (.columnNotLoaded ⟨1, 0, 0⟩) ∧
        (refusingStore.mergeSection ⟨0, 100, 0⟩ flatSection []).value =
          .error (.outsideWorld ⟨0, 100, 0⟩) ∧
        (refusingStore.mergeSection ⟨0, 0, 0⟩ flatSection []).value =
          .error (.malformed ⟨0, 0, 0⟩ (.layerEdge 0 4))) := by
  have answered (pos : SectionPos) (near : pos.y ∈ [(0 : Int32), 1, 100])
      {value : Except MergeError Unit}
      (verdict : refusingStore.Verdict pos flatSection value) :
      (refusingStore.mergeSection pos flatSection []).value = value :=
    ((verdict_mergeSection_run .standard bareConverter refusingRun pos
        flatSection [] (measures_refusingStore pos.y near)).1 value).2 verdict
  obtain ⟨shown, hidden⟩ := column?_refusingStore
  have asked (pos : SectionPos) : pos ∈ refusingStore.inFlight ↔
      pos ∈ [(⟨0, 0, 0⟩ : SectionPos), ⟨0, 100, 0⟩, ⟨1, 0, 0⟩] := by
    rw [← inFlight_refusingStore, Std.TreeSet.mem_toList]
  refine ⟨measures_refusingStore, ?_, ?_, ?_, ?_⟩
  · refine answered ⟨0, 1, 0⟩ (by decide) (.notRequested ?_)
    exact mt (asked ⟨0, 1, 0⟩).1 (by decide)
  · refine answered ⟨1, 0, 0⟩ (by decide) (.columnNotLoaded ?_ ?_)
    · exact (asked ⟨1, 0, 0⟩).2 (by decide)
    · exact hidden
  · refine answered ⟨0, 100, 0⟩ (by decide) (.outsideWorld ?_ ?_ ?_)
    · exact (asked ⟨0, 100, 0⟩).2 (by decide)
    · exact shown
    · exact mt (reaches_refusingStore 100).1 (by decide)
  · refine answered ⟨0, 0, 0⟩ (by decide)
      (.malformed ?_ ?_ ?_ checkShape_flatSection)
    · exact (asked ⟨0, 0, 0⟩).2 (by decide)
    · exact shown
    · exact (reaches_refusingStore 0).2 (by decide)

end Store

end VoxelRelay
