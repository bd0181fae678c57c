import VoxelRelay.Proofs.CellWrites

/-!
# Palettes through any changes

A palette starts as a cube of one identifier or from a table and the index of
each cell, and is then changed by a few operations.  Each of them keeps it well
formed, and none lets its table grow beyond the number of cells and one more,
unless it was larger at the start.  While the table has no more entries than
can be numbered in 16 bits, what the operations do to the table is therefore
not seen by a reader: a write changes one place, adding an identifier changes
none, and mapping the table maps what every place holds.

A table that has too many entries at the start is another matter.  A write
looks for its identifier in the whole table, and the position that it finds is
cut to 16 bits.
-/

namespace VoxelRelay

/-- What can happen to a palette. -/
inductive PaletteOperation where
  | write (place : Place) (id : UInt32)
  | addId (id : UInt32)
  | replace (index : Nat) (id : UInt32)
  | mapIds (change : UInt32 → UInt32)

/-- A write goes to a place of the cube. -/
def PaletteOperation.Within (edgeBits : Nat) : PaletteOperation → Prop
  | .write place _ => place ∈ placesOf (1 <<< edgeBits)
  | _ => True

namespace Palette

/-- The palettes that operations start from. -/
inductive Made (edgeBits : Nat) : Palette → Prop
  | filled (id : UInt32) : Made edgeBits (filled edgeBits id)
  | listed {ids : Array UInt32} {cells : Array UInt16} {palette : Palette}
      (built : ofIndices edgeBits ids cells = .ok palette) :
      Made edgeBits palette

/-- The palette after an operation; one that fails changes nothing. -/
def perform (palette : Palette) : PaletteOperation → Palette
  | .write place id => palette.write place id
  | .addId id => (palette.addId id).1
  | .replace index id => (palette.setIdByIndex index id).toOption.getD palette
  | .mapIds change => palette.mapIds change

/-- The palette after a list of operations. -/
def run (palette : Palette) (operations : List PaletteOperation) : Palette :=
  operations.foldl perform palette

variable {palette : Palette} {edgeBits : Nat}

theorem Made.wellFormed (made : Made edgeBits palette) :
    palette.WellFormed := by
  cases made with
  | filled id => exact wellFormed_filled edgeBits id
  | listed built => exact (wellFormed_of_ofIndices built).1

theorem Made.edgeBits_eq (made : Made edgeBits palette) :
    palette.edgeBits = edgeBits := by
  cases made with
  | filled id => rfl
  | listed built => exact (wellFormed_of_ofIndices built).2.1

/-! ## One operation -/

/--
Adding an identifier makes room, puts it at the end of the table and says
where.
-/
theorem addId_eq
    (palette : Palette)
    (id : UInt32) :
    palette.addId id =
      (palette.makeRoom.extended id, palette.makeRoom.ids.size.toUInt16) := by
  have appended : palette.appendId id = palette.makeRoom.extended id := rfl
  simp [addId, lastIndex, appended, ids_extended]

/--
Replacing an entry gives a palette that differs in the table at most, not in
its length.
-/
theorem replace_eq
    (palette : Palette)
    (index : Nat)
    (id : UInt32) :
    ∃ ids : Array UInt32, ids.size = palette.ids.size ∧
      palette.perform (.replace index id) = { palette with ids } := by
  rw [perform, setIdByIndex]
  split_ifs with inside
  · exact ⟨palette.ids.setIfInBounds index id, Array.size_setIfInBounds, rfl⟩
  · exact ⟨palette.ids, rfl, rfl⟩

theorem edgeBits_perform
    (palette : Palette)
    (operation : PaletteOperation) :
    (palette.perform operation).edgeBits = palette.edgeBits := by
  cases operation with
  | write place id => exact palette.edgeBits_setIdAtCell_eq _ id
  | addId id =>
      rw [perform, addId_eq]
      exact (edgeBits_extended _ id).trans palette.edgeBits_makeRoom
  | replace index id =>
      obtain ⟨ids, -, replaced⟩ := palette.replace_eq index id
      rw [replaced]
  | mapIds change => rfl

/-- Another table of the same length leaves a palette well formed. -/
theorem WellFormed.withIds
    (wellFormed : palette.WellFormed)
    {ids : Array UInt32}
    (same : ids.size = palette.ids.size) :
    { palette with ids }.WellFormed where
  sized := wellFormed.sized
  width_eq := same ▸ wellFormed.width_eq
  size_eq := wellFormed.size_eq
  ids_pos := same ▸ wellFormed.ids_pos
  index_lt := fun cell inside => same ▸ wellFormed.index_lt cell inside

/-- A write keeps a palette well formed, however large its table. -/
theorem WellFormed.write
    (wellFormed : palette.WellFormed)
    {place : Place}
    (inside : palette.Inside place)
    (id : UInt32) :
    (palette.write place id).WellFormed := by
  have numbered := wellFormed.number_lt inside
  change (palette.setIdAtCell (palette.number place) id).WellFormed
  rcases palette.setIdAtCell_eq (palette.number place) id with
    ⟨index, known, written⟩ | ⟨-, written⟩
  · rw [written]
    exact wellFormed.setIndex numbered (Array.getElem?_eq_some_iff.1 known).1
  · rw [written]
    apply (wellFormed.makeRoom.extended id).setIndex
    · rwa [size_extended, size_makeRoom]
    · simp [ids_extended]

theorem WellFormed.perform
    (wellFormed : palette.WellFormed)
    {operation : PaletteOperation}
    (within : operation.Within palette.edgeBits) :
    (palette.perform operation).WellFormed := by
  cases operation with
  | write place id => exact wellFormed.write (inside_iff_mem.2 within) id
  | addId id =>
      rw [Palette.perform, addId_eq]
      exact wellFormed.makeRoom.extended id
  | replace index id =>
      obtain ⟨ids, same, replaced⟩ := palette.replace_eq index id
      rw [replaced]
      exact wellFormed.withIds same
  | mapIds change => exact wellFormed.mapIds change

/-- A table grows to one entry more than there are cells at most. -/
theorem size_ids_perform_le
    (palette : Palette)
    (operation : PaletteOperation) :
    (palette.perform operation).ids.size ≤
      max palette.ids.size (palette.size + 1) := by
  have roomy := palette.size_ids_makeRoom_le
  cases operation with
  | write place id =>
      rcases palette.setIdAtCell_eq (palette.number place) id with
        ⟨index, -, written⟩ | ⟨-, written⟩
      · exact (congrArg (·.ids.size) written).le.trans (le_max_left _ _)
      · refine (congrArg (·.ids.size) written).le.trans ?_
        simp only [ids_extended, Array.size_push]
        omega
  | addId id =>
      rw [perform, addId_eq, ids_extended, Array.size_push]
      omega
  | replace index id =>
      obtain ⟨ids, same, replaced⟩ := palette.replace_eq index id
      rw [replaced]
      exact same.le.trans (le_max_left _ _)
  | mapIds change =>
      rw [perform, mapIds, Array.size_map]
      exact le_max_left _ _

/-! ## A whole run -/

/--
A well-formed palette whose table is no longer than it was or than its cells
require.
-/
structure Grown (start palette : Palette) : Prop
    extends palette.WellFormed where
  edgeBits_eq : palette.edgeBits = start.edgeBits
  ids_le : palette.ids.size ≤ max start.ids.size (start.size + 1)

theorem Grown.perform
    {start : Palette}
    (grown : Grown start palette)
    (formed : start.WellFormed)
    {operation : PaletteOperation}
    (within : operation.Within start.edgeBits) :
    Grown start (palette.perform operation) where
  toWellFormed := grown.toWellFormed.perform (grown.edgeBits_eq.symm ▸ within)
  edgeBits_eq := (palette.edgeBits_perform operation).trans grown.edgeBits_eq
  ids_le := by
    have sizes : palette.size = start.size := by
      rw [grown.size_eq, formed.size_eq, grown.edgeBits_eq]
    have bounded := palette.size_ids_perform_le operation
    have before := grown.ids_le
    omega

theorem grown_run
    {start : Palette}
    (formed : start.WellFormed)
    {operations : List PaletteOperation}
    (within : ∀ operation ∈ operations, operation.Within start.edgeBits) :
    Grown start (start.run operations) := by
  have general : ∀ (rest : List PaletteOperation) (palette : Palette),
      (∀ operation ∈ rest, operation.Within start.edgeBits) →
        Grown start palette →
      Grown start (palette.run rest) := by
    intro rest
    induction rest with
    | nil => exact fun _ _ grown => grown
    | cons operation rest ih =>
        intro palette within grown
        obtain ⟨here, later⟩ := List.forall_mem_cons.1 within
        exact ih _ later (grown.perform formed here)
  exact general operations start within ⟨formed, rfl, le_max_left _ _⟩

/--
Cubes of an edge of 32 cells and less have few enough cells to number them in
16 bits.
-/
theorem cellCount_lt_of_small (small : edgeBits ≤ 5) :
    cellCount edgeBits < 2 ^ 16 := by
  rw [cellCount, Nat.one_shiftLeft]
  exact Nat.pow_lt_pow_right (by decide) (by omega)

/-- A palette of few cells and entries stays one through a run. -/
theorem Made.writable_run
    {start : Palette}
    (made : Made edgeBits start)
    (small : edgeBits ≤ 5)
    (few : start.ids.size ≤ 2 ^ 16)
    {operations : List PaletteOperation}
    (within : ∀ operation ∈ operations, operation.Within edgeBits) :
    (start.run operations).Writable ∧
      (start.run operations).edgeBits = edgeBits := by
  have bounded := cellCount_lt_of_small small
  have grown := grown_run made.wellFormed (made.edgeBits_eq.symm ▸ within)
  have edges := grown.edgeBits_eq.trans made.edgeBits_eq
  refine ⟨⟨grown.toWellFormed, ?_, ?_⟩, edges⟩
  · rwa [grown.size_eq, edges]
  · have entries := grown.ids_le
    rw [made.wellFormed.size_eq, made.edgeBits_eq] at entries
    omega

/-! ## What a reader sees -/

/-- Adding an identifier changes no place. -/
theorem Writable.rewritten_addId
    (writable : palette.Writable)
    (id : UInt32) :
    Rewritten palette (palette.addId id).1 palette.read := by
  have edges : (palette.addId id).1.edgeBits = palette.edgeBits :=
    palette.edgeBits_perform (.addId id)
  have sizes : (palette.addId id).1.size = palette.size := by
    rw [addId_eq, size_extended, size_makeRoom]
  have entries : (palette.addId id).1.ids.size ≤
      max palette.ids.size (palette.size + 1) :=
    palette.size_ids_perform_le (.addId id)
  have few := writable.size_lt
  have before := writable.ids_le
  refine ⟨⟨?_, ?_, ?_⟩, edges, ?_⟩
  · rw [addId_eq]
    exact writable.makeRoom.extended id
  · rwa [sizes]
  · omega
  · intro place inside
    have numbered := writable.number_lt inside
    rw [read, idAt, ← number, number_congr edges, addId_eq]
    rw [writable.makeRoom.idAtCell_extended id
      (palette.size_makeRoom.symm ▸ numbered),
      writable.idAtCell_makeRoom few numbered]
    rfl

/-- The index that adding an identifier answers is that of the identifier. -/
theorem id?_addId
    (palette : Palette)
    (small : palette.size < 2 ^ 16)
    (id : UInt32) :
    (palette.addId id).1.id? (palette.addId id).2.toNat = some id := by
  have roomy := palette.size_ids_makeRoom_le
  have whole : palette.makeRoom.ids.size.toUInt16.toNat =
      palette.makeRoom.ids.size :=
    Nat.mod_eq_of_lt (by omega)
  rw [addId_eq, id?, ids_extended, whole, Array.getElem?_push_size]

/--
After any run a write changes what its place reads and nothing else, adding an
identifier answers its index and changes no place, and mapping the table maps
every place.
-/
theorem read_over_run
    (small : edgeBits ≤ 5)
    {start : Palette}
    (made : Made edgeBits start)
    (few : start.ids.size ≤ 2 ^ 16)
    (operations : List PaletteOperation)
    (within : ∀ operation ∈ operations, operation.Within edgeBits) :
    (∀ place ∈ placesOf (1 <<< edgeBits), ∀ id,
      ((start.run operations).write place id).read place = id ∧
      ∀ other ∈ placesOf (1 <<< edgeBits), other ≠ place →
        ((start.run operations).write place id).read other =
          (start.run operations).read other) ∧
    (∀ id,
      ((start.run operations).addId id).1.id?
        ((start.run operations).addId id).2.toNat =
        some id ∧
      ∀ place ∈ placesOf (1 <<< edgeBits),
        ((start.run operations).addId id).1.read place =
          (start.run operations).read place) ∧
    ∀ change, ∀ place ∈ placesOf (1 <<< edgeBits),
      ((start.run operations).mapIds change).read place =
        change ((start.run operations).read place) := by
  obtain ⟨writable, edges⟩ := made.writable_run small few within
  have inside : ∀ place ∈ placesOf (1 <<< edgeBits),
      (start.run operations).Inside place := by
    rw [← edges]
    exact fun place => inside_iff_mem.2
  refine ⟨fun place member id => ?_, fun id => ?_, fun change place member =>
    ?_⟩
  · have written :=
      (writable.rewritten_write (inside place member) id).read_eq
    constructor
    · rw [written place (inside place member), Function.update_self]
    · intro other otherMember apart
      rw [written other (inside other otherMember),
        Function.update_of_ne apart]
  · exact ⟨id?_addId _ writable.size_lt id, fun place member =>
      (writable.rewritten_addId id).read_eq place (inside place member)⟩
  · exact (writable.rewritten_mapIds change).read_eq place
      (inside place member)

/--
Changes that leave a cube of eight cells with eight entries, of which it uses
three.
-/
def crowding : List PaletteOperation :=
  [.write (0, 0, 0) 9, .write (1, 0, 1) 20, .addId 10, .addId 11, .addId 12,
    .addId 13, .addId 14]

/--
A crowded table is compacted by a write and by an entry more, and no reader
sees it.
-/
theorem read_over_run_crowded :
    (1 ≤ 5 ∧ (filled 1 7).ids.size ≤ 2 ^ 16 ∧
      ∀ operation ∈ crowding, operation.Within 1) ∧
      (((filled 1 7).run crowding).ids.size = 8 ∧
        (((filled 1 7).run crowding).write (1, 1, 1) 4).ids = #[7, 9, 20, 4] ∧
        (((filled 1 7).run crowding).addId 30).1.ids = #[7, 9, 20, 30]) ∧
      ((((filled 1 7).run crowding).write (1, 1, 1) 4).read (1, 1, 1) = 4 ∧
        (((filled 1 7).run crowding).write (1, 1, 1) 4).read (1, 0, 1) = 20) ∧
      ((((filled 1 7).run crowding).addId 30).1.id?
          (((filled 1 7).run crowding).addId 30).2.toNat = some 30 ∧
        (((filled 1 7).run crowding).addId 30).1.read (0, 0, 0) = 9) ∧
      (((filled 1 7).run crowding).mapIds (· + 1)).read (1, 0, 1) = 21 := by
  have within : ∀ operation ∈ crowding, operation.Within 1 := by
    simp [crowding, PaletteOperation.Within, placesOf]
  obtain ⟨written, added, mapped⟩ :=
    read_over_run (by decide) (.filled 7) (by decide) crowding within
  have west : ((filled 1 7).run crowding).read (0, 0, 0) = 9 := by
    decide +kernel
  have east : ((filled 1 7).run crowding).read (1, 0, 1) = 20 := by
    decide +kernel
  obtain ⟨here, elsewhere⟩ := written (1, 1, 1) (by decide) 4
  obtain ⟨answered, kept⟩ := added 30
  refine ⟨⟨by decide, by decide, within⟩, ⟨?_, ?_, ?_⟩, ⟨here, ?_⟩,
    ⟨answered, ?_⟩, ?_⟩
  · decide +kernel
  · decide +kernel
  · decide +kernel
  · exact (elsewhere (1, 0, 1) (by decide) (by decide)).trans east
  · exact (kept (0, 0, 0) (by decide)).trans west
  · rw [mapped (· + 1) (1, 0, 1) (by decide), east]
    rfl

/-! ## Tables of any length -/

/--
What a cell reads whose index was overwritten by a table position that was cut
to 16 bits.
-/
theorem WellFormed.idAtCell_setIndex_cut
    (wellFormed : palette.WellFormed)
    {cell index : Nat}
    (inside : cell < palette.size)
    (known : index < palette.ids.size) :
    { palette with
      indices := palette.indices.set cell index.toUInt16 }.idAtCell cell =
      palette.ids.getD (index % 2 ^ 16) 0 := by
  have fits := toNat_toUInt16_lt known
  rw [← wellFormed.width_eq] at fits
  rw [idAtCell, PackedIndices.get_set wellFormed.sized inside fits,
    if_pos rfl]
  rfl

theorem read_write_self
    (palette : Palette)
    (place : Place)
    (id : UInt32) :
    (palette.write place id).read place =
      (palette.setIdAtCell (palette.number place) id).idAtCell
        (palette.number place) := by
  have numbers : (palette.write place id).number place =
      palette.number place :=
    number_congr (palette.edgeBits_setIdAtCell_eq _ id) place
  rw [read, idAt, ← number, numbers]
  rfl

section

variable
    (wellFormed : palette.WellFormed)
    {place : Place}
    (inside : palette.Inside place)
    {id : UInt32}
include wellFormed inside

/-- A place reads what was written if the table did not have it. -/
theorem WellFormed.read_write_of_unlisted
    (small : palette.size < 2 ^ 16)
    (unlisted : id ∉ palette.ids) :
    (palette.write place id).read place = id := by
  have numbered := wellFormed.number_lt inside
  have roomy := palette.size_ids_makeRoom_le
  rw [read_write_self]
  rcases palette.setIdAtCell_eq (palette.number place) id with
    ⟨index, known, -⟩ | ⟨-, written⟩
  · exact absurd (Array.mem_of_getElem? known) unlisted
  · rw [← palette.size_makeRoom] at numbered
    rw [written,
      wellFormed.makeRoom.idAtCell_setIndex_extended (by omega) numbered
        numbered, if_pos rfl]

/--
A place reads the entry at the position, cut to 16 bits, where the identifier
was found.
-/
theorem WellFormed.read_write_of_located
    {index : Nat}
    (located : palette.ids.findIdx? (· == id) = some index) :
    (palette.write place id).read place =
      palette.ids.getD (index % 2 ^ 16) 0 := by
  have known := (Array.findIdx?_eq_some_iff_getElem.1 located).1
  have written : palette.setIdAtCell (palette.number place) id =
      { palette with
        indices :=
          palette.indices.set (palette.number place) index.toUInt16 } := by
    rw [Palette.setIdAtCell, intern, located]
  rw [read_write_self, written,
    wellFormed.idAtCell_setIndex_cut (wellFormed.number_lt inside) known]

/--
A place reads what was written unless the table has the identifier too far
behind only.
-/
theorem WellFormed.read_write_eq_iff
    (small : palette.size < 2 ^ 16)
    (id : UInt32) :
    (palette.write place id).read place = id ↔
      (id ∈ palette.ids.toList → id ∈ palette.ids.toList.take (2 ^ 16)) := by
  cases located : palette.ids.findIdx? (· == id) with
  | none =>
      have unlisted : id ∉ palette.ids := by
        intro member
        simpa using Array.findIdx?_eq_none_iff.1 located id member
      exact iff_of_true
        (wellFormed.read_write_of_unlisted inside small unlisted)
        fun member => absurd (Array.mem_toList_iff.1 member) unlisted
  | some index =>
      obtain ⟨known, matching, first⟩ :=
        Array.findIdx?_eq_some_iff_getElem.1 located
      have entry : palette.ids[index] = id := by simpa using matching
      have cut : index % 2 ^ 16 < palette.ids.size :=
        lt_of_le_of_lt (Nat.mod_le _ _) known
      rw [wellFormed.read_write_of_located inside located,
        Array.getD_eq_getD_getElem?, Array.getElem?_eq_getElem cut,
        Option.getD_some]
      -- The position is the first one, so that no smaller one has the
      -- identifier.
      constructor
      · intro same _
        have least : index ≤ index % 2 ^ 16 := by
          by_contra smaller
          exact first _ (Nat.not_le.1 smaller) (beq_iff_eq.2 same)
        have below : index < 2 ^ 16 :=
          lt_of_le_of_lt least (Nat.mod_lt _ (by decide))
        exact List.mem_take_iff_getElem.2 ⟨index, lt_min below known, entry⟩
      · intro early
        have member := Array.mem_toList_iff.2 (Array.mem_of_getElem entry)
        obtain ⟨other, bound, found⟩ :=
          List.mem_take_iff_getElem.1 (early member)
        obtain ⟨below, listed⟩ := lt_min_iff.1 bound
        have least : index ≤ other := by
          by_contra smaller
          exact first _ (Nat.not_le.1 smaller) (beq_iff_eq.2 found)
        have whole : index % 2 ^ 16 = index :=
          Nat.mod_eq_of_lt (lt_of_le_of_lt least below)
        simp only [whole, entry]

end

/--
A palette that was built has the edge and the table that it was built from.
-/
theorem shape_of_ofIndices
    (small : edgeBits ≤ 5)
    {ids : Array UInt32}
    {cells : Array UInt16}
    (built : ofIndices edgeBits ids cells = .ok palette) :
    palette.WellFormed ∧ palette.edgeBits = edgeBits ∧ palette.ids = ids ∧
      palette.size < 2 ^ 16 := by
  obtain ⟨wellFormed, edges, -⟩ := wellFormed_of_ofIndices built
  refine ⟨wellFormed, edges, ?_, ?_⟩
  · obtain ⟨-, -, rfl⟩ := ofIndices_eq_ok built
    rfl
  · rw [wellFormed.size_eq, edges]
    exact cellCount_lt_of_small small

/--
A cube that was built from a table of any length reads a written identifier at
the place of the write exactly if its table does not have the identifier, or
has it among its first entries, those whose positions have 16 bits.
-/
theorem read_write_built_iff
    (small : edgeBits ≤ 5)
    {ids : Array UInt32}
    {cells : Array UInt16}
    (built : ofIndices edgeBits ids cells = .ok palette)
    {place : Place}
    (member : place ∈ placesOf (1 <<< edgeBits))
    (id : UInt32) :
    (palette.write place id).read place = id ↔
      (id ∈ ids.toList → id ∈ ids.toList.take (2 ^ 16)) := by
  obtain ⟨wellFormed, edges, table, few⟩ := shape_of_ofIndices small built
  rw [← edges] at member
  rw [wellFormed.read_write_eq_iff (inside_iff_mem.2 member) few, table]

/--
A cube of eight cells reads an identifier that its table lists twice, and one
that it lacks.
-/
theorem read_write_built_iff_eightCells :
    ∃ palette, ofIndices 1 #[5, 6, 5] #[1, 0, 2, 1, 0, 1, 1, 2] =
      .ok palette ∧
      palette.read (1, 0, 1) = 6 ∧
      (palette.write (1, 0, 1) 5).read (1, 0, 1) = 5 ∧
      (palette.write (1, 0, 1) 9).read (1, 0, 1) = 9 := by
  have built : ofIndices 1 #[5, 6, 5] #[1, 0, 2, 1, 0, 1, 1, 2] = .ok _ := rfl
  have writable := fun id => read_write_built_iff (by decide) built
    (show (1, 0, 1) ∈ placesOf (1 <<< 1) by decide) id
  refine ⟨_, built, by decide +kernel, (writable 5).2 ?_, (writable 9).2 ?_⟩
  · intro _
    simp
  · intro listed
    exact absurd listed (by decide)

/--
A table that has an identifier behind as many entries as 16 bits can number.
-/
def longTable : Array UInt32 := (Array.replicate (2 ^ 16) 0).push 1

theorem exists_ofIndices_longTable :
    ∃ palette, ofIndices 0 longTable #[0] = .ok palette := by
  have size : longTable.size = 2 ^ 16 + 1 := by
    rw [longTable, Array.size_push, Array.size_replicate]
  have entries : longTable.isEmpty = false := by
    rw [Array.isEmpty, size]
    rfl
  have counted : ¬ (#[0] : Array UInt16).size ≠ cellCount 0 := by decide
  have listed :
      (#[0] : Array UInt16).find?
        (fun index => longTable.size ≤ index.toNat) = none := by
    rw [size]
    decide
  rw [ofIndices, if_neg counted, entries, listed]
  exact ⟨_, rfl⟩

/--
A cube of one cell with that table reads another identifier than was written.
-/
theorem longTable_misread :
    ¬ ∀ (edgeBits : Nat) (ids : Array UInt32) (cells : Array UInt16)
      (palette : Palette)
      (place : Place) (id : UInt32), edgeBits ≤ 5 →
      ofIndices edgeBits ids cells = .ok palette →
      place ∈ placesOf (1 <<< edgeBits) →
      (palette.write place id).read place = id := by
  intro readable
  obtain ⟨palette, built⟩ := exists_ofIndices_longTable
  obtain ⟨wellFormed, edges, table, few⟩ :=
    shape_of_ofIndices (by decide) built
  have inside : palette.Inside (0, 0, 0) := by
    rw [inside_iff_mem, edge, edges]
    decide
  have written :=
    readable 0 longTable #[0] palette (0, 0, 0) 1 (by decide) built
      (by decide)
  have early := (wellFormed.read_write_eq_iff inside few 1).1 written
  rw [table, longTable, Array.toList_push, Array.toList_replicate,
    List.take_left' List.length_replicate] at early
  have first := early (List.mem_append_right _ (List.mem_singleton_self 1))
  exact absurd (List.eq_of_mem_replicate first) (by decide)

end Palette

end VoxelRelay
