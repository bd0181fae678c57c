import VoxelRelay.Proofs.CheckedAccess
import VoxelRelay.Proofs.PaletteRuns

/-!
# Indices address the table

The indices of a palette are positions in its table.  Where a palette is built
from indices they come from outside, so they are counted and looked through
first, and the first fault that is found is the one that is reported.  What is
accepted reads back as it was listed, at whatever width the table calls for.
From then on no operation leaves an index without an entry, so that no cell is
ever read past the end of the table.
-/

namespace VoxelRelay.Palette

theorem cellCount_eq_pow (edgeBits : Nat) :
    cellCount edgeBits = 8 ^ edgeBits := by
  rw [cellCount, Nat.one_shiftLeft, Nat.pow_mul]

variable
    {edgeBits : Nat}
    {ids : Array UInt32}
    {cells : Array UInt16}
    {palette : Palette}

/-! ## Building from indices -/

/-- Each cell of the cube has an index, and each index has an entry. -/
structure Addressable
    (edgeBits : Nat)
    (ids : Array UInt32)
    (cells : Array UInt16) : Prop where
  counted : cells.size = 8 ^ edgeBits
  entries : 0 < ids.size
  listed : ∀ (cell : Nat) (inside : cell < cells.size),
    cells[cell].toNat < ids.size

/-- The fault of a table and its indices that is found first. -/
inductive Faulty
    (edgeBits : Nat)
    (ids : Array UInt32)
    (cells : Array UInt16) : PaletteError → Prop where
  | miscounted (other : cells.size ≠ 8 ^ edgeBits) :
      Faulty edgeBits ids cells (.cellCount (8 ^ edgeBits) cells.size)
  | empty (counted : cells.size = 8 ^ edgeBits) (none : ids.size = 0) :
      Faulty edgeBits ids cells .emptyTable
  | unlisted (counted : cells.size = 8 ^ edgeBits) (entries : 0 < ids.size)
      (first : Nat) (inside : first < cells.size)
      (beyond : ids.size ≤ cells[first].toNat)
      (earlier : ∀ (cell : Nat) (before : cell < first),
        cells[cell].toNat < ids.size) :
      Faulty edgeBits ids cells (.indexOutOfRange cells[first].toNat ids.size)

/--
Each cell reads the entry of its index, and no indices are stored for a single
entry.
-/
structure ReadsBack
    (edgeBits : Nat)
    (ids : Array UInt32)
    (cells : Array UInt16)
    (palette : Palette) : Prop where
  edgeBits_eq : palette.edgeBits = edgeBits
  ids_eq : palette.ids = ids
  size_eq : palette.size = cells.size
  get_eq : ∀ (cell : Nat) (inside : cell < cells.size),
    palette.indices.get cell = cells[cell]
  idAtCell_eq : ∀ (cell : Nat) (inside : cell < cells.size),
    ids[cells[cell].toNat]? = some (palette.idAtCell cell)
  isSome_single?_iff : palette.single?.isSome = true ↔ ids.size = 1

/-- A table and its indices have a first fault, or none. -/
theorem faulty_or_addressable
    (edgeBits : Nat)
    (ids : Array UInt32)
    (cells : Array UInt16) :
    (∃ error, Faulty edgeBits ids cells error) ∨
      Addressable edgeBits ids cells := by
  by_cases counted : cells.size = 8 ^ edgeBits
  · rcases Nat.eq_zero_or_pos ids.size with none | entries
    · exact Or.inl ⟨_, .empty counted none⟩
    · cases found : cells.find? fun index => ids.size ≤ index.toNat with
      | some index =>
          obtain ⟨beyond, first, inside, rfl, earlier⟩ :=
            Array.find?_eq_some_iff_getElem.1 found
          refine Or.inl
            ⟨_,
              .unlisted counted entries first inside
                (of_decide_eq_true beyond) ?_⟩
          intro cell before
          simpa using earlier cell before
      | none =>
          refine Or.inr ⟨counted, entries, fun cell inside => ?_⟩
          simpa using Array.find?_eq_none.1 found cells[cell]
            (Array.getElem_mem inside)
  · exact Or.inl ⟨_, .miscounted counted⟩

theorem isEmpty_eq_false (entries : 0 < ids.size) : ids.isEmpty = false := by
  simpa [Array.size_pos_iff] using entries

/-- The first fault is reported. -/
theorem Faulty.ofIndices_eq
    {error : PaletteError}
    (faulty : Faulty edgeBits ids cells error) :
    ofIndices edgeBits ids cells = .error error := by
  cases faulty with
  | miscounted other =>
      rw [ofIndices, cellCount_eq_pow, if_pos other]
  | empty counted none =>
      rw [ofIndices, cellCount_eq_pow, if_neg (not_not.2 counted),
        if_pos (Array.isEmpty_iff_size_eq_zero.2 none)]
  | unlisted counted entries first inside beyond earlier =>
      have found : cells.find? (fun index => ids.size ≤ index.toNat) =
          some cells[first] := by
        apply Array.find?_eq_some_iff_getElem.2
        refine ⟨decide_eq_true beyond, first, inside, rfl, fun cell before =>
          ?_⟩
        simpa using earlier cell before
      rw [ofIndices, cellCount_eq_pow, if_neg (not_not.2 counted),
        isEmpty_eq_false entries, found]
      rfl

theorem single?_isSome_iff (wellFormed : palette.WellFormed) :
    palette.single?.isSome = true ↔ palette.ids.size = 1 := by
  have entries := wellFormed.ids_pos
  have narrow : palette.width = 0 ↔ palette.ids.size ≤ 1 := by
    rw [wellFormed.width_eq]
    exact PackedIndices.widthFor_eq_zero_iff
  rw [single?]
  split
  · next zero =>
      exact iff_of_true rfl (le_antisymm (narrow.1 zero) entries)
  · next wide =>
      exact iff_of_false Bool.false_ne_true fun one => wide (narrow.2 one.le)

/-- A table and indices without a fault give a cube that reads back. -/
theorem Addressable.exists_ofIndices_eq
    (addressable : Addressable edgeBits ids cells) :
    ∃ palette, ofIndices edgeBits ids cells = .ok palette ∧
      ReadsBack edgeBits ids cells palette := by
  have known : cells.find? (fun index => ids.size ≤ index.toNat) = none := by
    apply Array.find?_eq_none.2
    intro index member
    obtain ⟨cell, inside, rfl⟩ := Array.getElem_of_mem member
    simpa using addressable.listed cell inside
  have built : ∃ palette, ofIndices edgeBits ids cells = .ok palette := by
    rw [ofIndices, cellCount_eq_pow, if_neg (not_not.2 addressable.counted),
      isEmpty_eq_false addressable.entries, known]
    exact ⟨_, rfl⟩
  obtain ⟨palette, built⟩ := built
  obtain ⟨wellFormed, edges, -⟩ := wellFormed_of_ofIndices built
  have size_eq : palette.size = cells.size := by
    rw [wellFormed.size_eq, edges, cellCount_eq_pow, addressable.counted]
  obtain ⟨-, listed, rfl⟩ := ofIndices_eq_ok built
  have stored : ∀ (cell : Nat) (inside : cell < cells.size),
      (PackedIndices.ofFn (PackedIndices.widthFor ids.size)
        (cellCount edgeBits) (cells.getD · 0)).get cell = cells[cell] := by
    intro cell inside
    rw [cellCount_eq_pow, ← addressable.counted] at listed ⊢
    rw [get_ofFn_of_listed listed inside, Array.getD_eq_getD_getElem?,
      Array.getElem?_eq_getElem inside, Option.getD_some]
  refine ⟨_, built, rfl, rfl, size_eq, stored, fun cell inside =>
    ?_, single?_isSome_iff wellFormed⟩
  rw [← stored cell inside]
  exact wellFormed.getElem?_get (size_eq ▸ inside)

theorem addressable_of_ofIndices_eq_ok
    (built : ofIndices edgeBits ids cells = .ok palette) :
    Addressable edgeBits ids cells := by
  rcases faulty_or_addressable edgeBits ids cells with
    ⟨error, faulty⟩ | addressable
  · rw [faulty.ofIndices_eq] at built
    cases built
  · exact addressable

/--
A cube is built from a table and indices exactly if each cell has an index and
each index has an entry, and then it reads back.  Otherwise the fault that is
found first is reported: a number of indices that is not that of the cells, then
a table without entries, then the first index without an entry.
-/
theorem ofIndices_accepts_addressable
    (edgeBits : Nat)
    (ids : Array UInt32)
    (cells : Array UInt16) :
    (∀ error, ofIndices edgeBits ids cells = .error error ↔
      Faulty edgeBits ids cells error) ∧
      ((∃ palette, ofIndices edgeBits ids cells = .ok palette) ↔
        Addressable edgeBits ids cells) ∧
      ∀ palette, ofIndices edgeBits ids cells = .ok palette →
        ReadsBack edgeBits ids cells palette := by
  refine ⟨fun error => ⟨fun failed => ?_, Faulty.ofIndices_eq⟩, ⟨?_, ?_⟩, ?_⟩
  · rcases faulty_or_addressable edgeBits ids cells with
      ⟨other, faulty⟩ | addressable
    · have same := faulty.ofIndices_eq.symm.trans failed
      cases same
      exact faulty
    · obtain ⟨palette, built, -⟩ := addressable.exists_ofIndices_eq
      rw [built] at failed
      cases failed
  · rintro ⟨palette, built⟩
    exact addressable_of_ofIndices_eq_ok built
  · intro addressable
    exact addressable.exists_ofIndices_eq.imp fun _ => And.left
  · intro palette built
    obtain ⟨other, same, reads⟩ :=
      (addressable_of_ofIndices_eq_ok built).exists_ofIndices_eq
    rw [built] at same
    cases same
    exact reads

/-- Five entries take four bits each, of which three would do. -/
theorem ofIndices_accepts_addressable_fiveIds :
    ∃ palette, ofIndices 1 #[10, 11, 12, 13, 14] #[4, 0, 1, 2, 3, 4, 4, 0] =
      .ok palette ∧
      palette.width = 4 ∧
      ReadsBack 1 #[10, 11, 12, 13, 14]
        #[4, 0, 1, 2, 3, 4, 4, 0] palette := by
  have accepts :=
    ofIndices_accepts_addressable 1 #[10, 11, 12, 13, 14]
      #[4, 0, 1, 2, 3, 4, 4, 0]
  exact ⟨_, rfl, rfl, accepts.2.2 _ rfl⟩

/-! ## Changing what was built -/

/--
Every index of a palette has an entry, so that every read stays within its
bounds.
-/
structure Addressed (edgeBits : Nat) (start palette : Palette) : Prop where
  ids_pos : 0 < palette.ids.size
  width_eq : palette.width = PackedIndices.widthFor palette.ids.size
  size_eq : palette.size = 8 ^ edgeBits
  words_size : palette.indices.words.size =
    PackedIndices.wordCount palette.width palette.size
  index_lt : ∀ cell, cell < 8 ^ edgeBits →
    (palette.indices.get cell).toNat < palette.ids.size
  ids_le : palette.ids.size ≤ max start.ids.size (8 ^ edgeBits + 1)
  idAtCellChecked_eq : ∀ cell, cell < 8 ^ edgeBits →
    palette.idAtCellChecked cell = some (palette.idAtCell cell)
  idAtChecked_eq : ∀ x y z, x < 2 ^ edgeBits → y < 2 ^ edgeBits →
    z < 2 ^ edgeBits →
    palette.idAtChecked x y z = some (palette.idAt x y z)
  singleChecked_eq : palette.singleChecked = some palette.single?
  idAtCell_of_single? : ∀ id, palette.single? = some id →
    ∀ cell, palette.idAtCell cell = id

theorem Grown.addressed
    {start : Palette}
    (grown : Grown start palette)
    (made : Made edgeBits start) :
    Addressed edgeBits start palette := by
  have edges := grown.edgeBits_eq.trans made.edgeBits_eq
  have size_eq : palette.size = 8 ^ edgeBits := by
    rw [grown.size_eq, edges, cellCount_eq_pow]
  have edge_eq : palette.edge = 2 ^ edgeBits := by
    rw [edge, edges, Nat.one_shiftLeft]
  constructor
  · exact grown.ids_pos
  · exact grown.width_eq
  · exact size_eq
  · exact grown.sized.words_size
  · intro cell inside
    exact grown.index_lt cell (size_eq ▸ inside)
  · have bounded := grown.ids_le
    rwa [made.wellFormed.size_eq, made.edgeBits_eq, cellCount_eq_pow]
      at bounded
  · intro cell inside
    exact grown.idAtCellChecked_eq (size_eq ▸ inside)
  · intro x y z xLt yLt zLt
    apply grown.idAtChecked_eq
    rw [Inside, edge_eq]
    exact ⟨xLt, yLt, zLt⟩
  · exact grown.singleChecked_eq
  · exact fun id single cell => idAtCell_of_single? single cell

/--
However a cube was made, and whatever is then written, added, replaced and
mapped: its table is not empty and no longer than it was or than the cells
require, the indices have the width that the table calls for and are as many as
the cells, and each of them has an entry.  So no cell is read out of bounds, and
a cube in the form of a single identifier reads as that everywhere.
-/
theorem addressed_run
    {start : Palette}
    (made : Made edgeBits start)
    {operations : List PaletteOperation}
    (within : ∀ operation ∈ operations, operation.Within edgeBits) :
    Addressed edgeBits start (start.run operations) :=
  (grown_run made.wellFormed (made.edgeBits_eq.symm ▸ within)).addressed made

/--
Changes by which a cube of eight cells outgrows its table, with one entry in
use or two.
-/
def churn : List PaletteOperation :=
  (placesOf 2).map (.write · 5) ++ List.replicate 5 (.addId 6) ++
    [.write (1, 0, 1) 4, .replace 0 3, .replace 9 1, .mapIds (· + 1)]

/-- A cube of eight cells starts with three entries, of which it uses two. -/
theorem addressed_run_churn :
    ∃ start, ofIndices 1 #[7, 8, 9] #[2, 2, 1, 2, 1, 1, 2, 1] = .ok start ∧
      Made 1 start ∧
      (∀ operation ∈ churn, operation.Within 1) ∧
        Addressed 1 start (start.run churn) ∧
      (start.run (churn.take 12)).ids.size = 8 ∧
      (start.run (churn.take 13)).ids = #[5, 6] ∧
      (start.run churn).ids = #[4, 7, 5] := by
  have built : ofIndices 1 #[7, 8, 9] #[2, 2, 1, 2, 1, 1, 2, 1] = .ok _ := rfl
  have within : ∀ operation ∈ churn, operation.Within 1 := by
    refine List.forall_mem_append.2 ⟨List.forall_mem_append.2 ⟨?_, ?_⟩, ?_⟩
    · intro operation written
      obtain ⟨place, member, rfl⟩ := List.mem_map.1 written
      exact member
    · intro operation added
      obtain rfl := List.eq_of_mem_replicate added
      trivial
    · simp [PaletteOperation.Within, placesOf]
  have addressed := addressed_run (.listed built) within
  refine ⟨_, built, .listed built, within, addressed, ?_, ?_, ?_⟩
  · decide +kernel
  · decide +kernel
  · decide +kernel

end VoxelRelay.Palette
