import Mathlib.Data.Finset.Card
import Mathlib.Data.Finset.Range
import VoxelRelay.Proofs.BorderLight
import VoxelRelay.Proofs.PaletteCells

/-!
# Writing into palettes of any table

A table that has as many entries as its cube has cells is compacted before it
grows: entries that no cell refers to are dropped, and the number of an entry
becomes the number of entries kept before it.  No cell changes by this, and
there are no more entries left than cells.  So a write changes the written
cell and no other, however large the table was, as long as its entries can be
numbered in 16 bits.
-/

namespace VoxelRelay

/-- A kept number stands where the numbers kept before it end. -/
theorem getElem?_filter_range
    (kept : Nat → Bool)
    {count place : Nat}
    (below : place < count)
    (keeps : kept place = true) :
    ((List.range count).filter kept)[(List.range place).countP kept]? =
      some place := by
  induction count with
  | zero => omega
  | succ count ih =>
      rw [List.range_succ, List.filter_append]
      rcases Nat.lt_succ_iff_lt_or_eq.1 below with earlier | rfl
      · have found := ih earlier
        rw [List.getElem?_append_left (List.getElem?_eq_some_iff.1 found).1]
        exact found
      · rw [List.countP_eq_length_filter, List.getElem?_append_right le_rfl,
          Nat.sub_self]
        simp [keeps]

namespace Palette

/-- Whether some cell refers to a table entry. -/
def isUsed (palette : Palette) (entry : Nat) : Bool :=
  palette.usedEntries.getD entry false

/-- The number that an entry gets when the table is compacted. -/
def rank (palette : Palette) (entry : Nat) : Nat :=
  (List.range entry).countP palette.isUsed

/-- The entries that are kept when the table is compacted. -/
def usedList (palette : Palette) : List Nat :=
  (List.range palette.ids.size).filter palette.isUsed

theorem isUsed_iff
    {palette : Palette}
    {entry : Nat}
    (inside : entry < palette.ids.size) :
    palette.isUsed entry = true ↔
      ∃ cell, cell < palette.size ∧
        (palette.indices.get cell).toNat = entry := by
  have general : ∀ count,
      (Nat.fold count (fun cell _ used =>
        used.setIfInBounds (palette.indices.get cell).toNat true)
        (Array.replicate palette.ids.size false)).size = palette.ids.size ∧
      ((Nat.fold count (fun cell _ used =>
        used.setIfInBounds (palette.indices.get cell).toNat true)
        (Array.replicate palette.ids.size false)).getD entry false = true ↔
        ∃ cell, cell < count ∧ (palette.indices.get cell).toNat = entry) := by
    intro count
    induction count with
    | zero => simp [inside]
    | succ count ih =>
        obtain ⟨sized, marked⟩ := ih
        rw [Nat.fold_succ]
        refine ⟨by rw [Array.size_setIfInBounds, sized], ?_⟩
        rw [Array.getD_eq_getD_getElem?] at marked ⊢
        rw [Array.getElem?_setIfInBounds]
        by_cases same : (palette.indices.get count).toNat = entry
        · rw [if_pos same, if_pos (by omega)]
          exact iff_of_true rfl ⟨count, Nat.lt_succ_self count, same⟩
        · rw [if_neg same, marked]
          constructor
          · rintro ⟨cell, below, refers⟩
            exact ⟨cell, Nat.lt_succ_of_lt below, refers⟩
          · rintro ⟨cell, below, refers⟩
            refine ⟨cell, lt_of_le_of_ne (Nat.lt_succ_iff.1 below) ?_, refers⟩
            rintro rfl
            exact same refers
  exact (general palette.size).2

/-- Compacting keeps the entries in use in their order and numbers them anew. -/
theorem compact_eq (palette : Palette) :
    palette.compact =
      { palette with
        ids := (palette.usedList.map (palette.ids.getD · 0)).toArray
        indices :=
          .ofFn (PackedIndices.widthFor palette.usedList.length)
            palette.size fun cell =>
              ((List.range palette.ids.size).map fun entry =>
                if palette.isUsed entry then (palette.rank entry).toUInt16
                else 0).toArray.getD
                  (palette.indices.get cell).toNat 0 } := by
  have general : ∀ count,
      (List.range count).foldl
        (fun (kept : Array UInt32 × Array UInt16) old =>
          if palette.usedEntries.getD old false then
            (kept.1.push (palette.ids.getD old 0),
              kept.2.push kept.1.size.toUInt16)
          else (kept.1, kept.2.push 0)) (#[], #[]) =
      ((((List.range count).filter palette.isUsed).map
          (palette.ids.getD · 0)).toArray,
        ((List.range count).map fun entry =>
          if palette.isUsed entry then (palette.rank entry).toUInt16
          else 0).toArray) := by
    intro count
    induction count with
    | zero => rfl
    | succ count ih =>
        rw [List.range_succ, List.foldl_concat, ih, List.filter_append,
          List.map_append, List.map_append]
        by_cases used : palette.isUsed count = true
        · have marked : palette.usedEntries.getD count false = true := used
          simp [marked, used, rank, List.countP_eq_length_filter]
        · have unmarked : ¬ palette.usedEntries.getD count false = true :=
            used
          simp [unmarked, used]
  unfold compact
  simp only [fold_eq_foldl_range palette.ids.size
    (fun (kept : Array UInt32 × Array UInt16) old =>
      if palette.usedEntries.getD old false then
        (kept.1.push (palette.ids.getD old 0),
          kept.2.push kept.1.size.toUInt16)
      else (kept.1, kept.2.push 0)), general, usedList, List.size_toArray,
        List.length_map]

/-! ## Compacting a well-formed palette -/

/--
Every cell refers to an entry, so no more entries are kept than there are
cells.
-/
theorem length_usedList_le (palette : Palette) :
    palette.usedList.length ≤ palette.size := by
  have distinct : palette.usedList.Nodup := List.nodup_range.filter _
  have referred : palette.usedList.toFinset ⊆
      (Finset.range palette.size).image fun cell =>
        (palette.indices.get cell).toNat := by
    intro entry member
    obtain ⟨inside, used⟩ := List.mem_filter.1 (List.mem_toFinset.1 member)
    obtain ⟨cell, below, refers⟩ :=
      (isUsed_iff (List.mem_range.1 inside)).1 used
    exact Finset.mem_image.2 ⟨cell, Finset.mem_range.2 below, refers⟩
  calc
    palette.usedList.length = palette.usedList.toFinset.card :=
      (List.toFinset_card_of_nodup distinct).symm
    _ ≤ (Finset.range palette.size).card :=
      (Finset.card_le_card referred).trans Finset.card_image_le
    _ = palette.size := Finset.card_range _

theorem size_ids_compact (palette : Palette) :
    palette.compact.ids.size = palette.usedList.length := by
  simp [compact_eq]

theorem size_compact (palette : Palette) :
    palette.compact.size = palette.size := by
  rw [compact_eq]
  exact PackedIndices.size_ofFn _ _ _

theorem edgeBits_compact (palette : Palette) :
    palette.compact.edgeBits = palette.edgeBits := by
  rw [compact_eq]

/-- An entry in use stands at its new number among those that are kept. -/
theorem getElem?_usedList
    {palette : Palette}
    {entry : Nat}
    (inside : entry < palette.ids.size)
    (used : palette.isUsed entry = true) :
    palette.usedList[palette.rank entry]? = some entry :=
  getElem?_filter_range palette.isUsed inside used

theorem WellFormed.isUsed_get
    {palette : Palette}
    (wellFormed : palette.WellFormed)
    {cell : Nat}
    (inside : cell < palette.size) :
    palette.isUsed (palette.indices.get cell).toNat = true :=
  (isUsed_iff (wellFormed.index_lt cell inside)).2 ⟨cell, inside, rfl⟩

theorem WellFormed.rank_lt
    {palette : Palette}
    (wellFormed : palette.WellFormed)
    {cell : Nat}
    (inside : cell < palette.size) :
    palette.rank (palette.indices.get cell).toNat < palette.usedList.length :=
  (List.getElem?_eq_some_iff.1
    (getElem?_usedList (wellFormed.index_lt cell inside)
      (wellFormed.isUsed_get inside))).1

/-- A cell refers to the new number of its entry. -/
theorem WellFormed.get_compact
    {palette : Palette}
    (wellFormed : palette.WellFormed)
    {cell : Nat}
    (inside : cell < palette.size) :
    palette.compact.indices.get cell =
      (palette.rank (palette.indices.get cell).toNat).toUInt16 := by
  have renumbered : ∀ other, other < palette.size →
      ((List.range palette.ids.size).map fun entry =>
        if palette.isUsed entry then (palette.rank entry).toUInt16
        else 0).toArray.getD
          (palette.indices.get other).toNat 0 =
        (palette.rank (palette.indices.get other).toNat).toUInt16 := by
    intro other otherInside
    have bound := wellFormed.index_lt other otherInside
    simp [Array.getD_eq_getD_getElem?, bound,
      wellFormed.isUsed_get otherInside]
  rw [compact_eq,
    PackedIndices.get_ofFn (PackedIndices.supported_widthFor _) _ inside,
    renumbered cell inside]
  intro other otherInside
  rw [renumbered other otherInside]
  exact toNat_toUInt16_lt (wellFormed.rank_lt otherInside)

theorem WellFormed.size_pos
    {palette : Palette}
    (wellFormed : palette.WellFormed) :
    0 < palette.size := by
  rw [wellFormed.size_eq, cellCount, Nat.one_shiftLeft]
  exact Nat.two_pow_pos _

theorem WellFormed.compact
    {palette : Palette}
    (wellFormed : palette.WellFormed) :
    palette.compact.WellFormed where
  sized := by
    rw [compact_eq]
    exact PackedIndices.wellSized_ofFn
      (PackedIndices.supported_widthFor _) _ _
  width_eq := by
    rw [size_ids_compact, compact_eq]
    exact PackedIndices.width_ofFn _ _ _
  size_eq := by
    rw [size_compact, edgeBits_compact, wellFormed.size_eq]
  ids_pos := by
    rw [size_ids_compact]
    exact Nat.zero_lt_of_lt (wellFormed.rank_lt wellFormed.size_pos)
  index_lt := by
    intro cell inside
    rw [size_compact] at inside
    have cut : ∀ index : Nat, index.toUInt16.toNat = index % 2 ^ 16 :=
      fun _ => rfl
    rw [wellFormed.get_compact inside, size_ids_compact, cut]
    exact lt_of_le_of_lt (Nat.mod_le _ _) (wellFormed.rank_lt inside)

/-- Compacting changes no cell. -/
theorem WellFormed.idAtCell_compact
    {palette : Palette}
    (wellFormed : palette.WellFormed)
    (small : palette.size < 2 ^ 16)
    {cell : Nat}
    (inside : cell < palette.size) :
    palette.compact.idAtCell cell = palette.idAtCell cell := by
  have bound := wellFormed.rank_lt inside
  have fewer := palette.length_usedList_le
  have whole :
      (palette.rank (palette.indices.get cell).toNat).toUInt16.toNat =
      palette.rank (palette.indices.get cell).toNat :=
        Nat.mod_eq_of_lt (by omega)
  have found :=
    getElem?_usedList (wellFormed.index_lt cell inside)
      (wellFormed.isUsed_get inside)
  rw [idAtCell, wellFormed.get_compact inside, whole, compact_eq, idAtCell]
  simp [Array.getD_eq_getD_getElem?, found]

/-! ## Making room -/

theorem WellFormed.makeRoom
    {palette : Palette}
    (wellFormed : palette.WellFormed) :
    palette.makeRoom.WellFormed := by
  unfold Palette.makeRoom
  split
  · exact wellFormed.compact
  · exact wellFormed

theorem size_makeRoom (palette : Palette) :
    palette.makeRoom.size = palette.size := by
  unfold makeRoom
  split
  · exact palette.size_compact
  · rfl

theorem edgeBits_makeRoom (palette : Palette) :
    palette.makeRoom.edgeBits = palette.edgeBits := by
  unfold makeRoom
  split
  · exact palette.edgeBits_compact
  · rfl

theorem WellFormed.idAtCell_makeRoom
    {palette : Palette}
    (wellFormed : palette.WellFormed)
    (small : palette.size < 2 ^ 16)
    {cell : Nat}
    (inside : cell < palette.size) :
    palette.makeRoom.idAtCell cell = palette.idAtCell cell := by
  unfold Palette.makeRoom
  split
  · exact wellFormed.idAtCell_compact small inside
  · rfl

/--
A table that was made room in has no more entries than the cube has cells.
-/
theorem size_ids_makeRoom_le (palette : Palette) :
    palette.makeRoom.ids.size ≤ palette.size := by
  unfold makeRoom
  split
  · rw [size_ids_compact]
    exact palette.length_usedList_le
  · omega

/-! ## Writing -/

/--
A write as the overwriting of one index: in the table as it is, or, when that
does not have the identifier, in the table that was made room in and got one
more entry.
-/
theorem setIdAtCell_eq
    (palette : Palette)
    (cell : Nat)
    (id : UInt32) :
    (∃ index : Nat, palette.ids[index]? = some id ∧
      palette.setIdAtCell cell id =
        { palette with indices := palette.indices.set cell index.toUInt16 }) ∨
    (id ∉ palette.ids ∧
      palette.setIdAtCell cell id =
        { palette.makeRoom.extended id with
          indices := (palette.makeRoom.extended id).indices.set cell
            palette.makeRoom.ids.size.toUInt16 }) := by
  unfold setIdAtCell intern
  cases located : palette.ids.findIdx? (· == id) with
  | some index =>
      left
      obtain ⟨inside, matching, -⟩ :=
        Array.findIdx?_eq_some_iff_getElem.1 located
      refine ⟨index, ?_, rfl⟩
      rw [Array.getElem?_eq_getElem inside]
      simpa using matching
  | none =>
      right
      have appended : palette.appendId id = palette.makeRoom.extended id :=
        rfl
      refine ⟨?_, by simp [addId, lastIndex, appended, ids_extended]⟩
      intro member
      have unequal := Array.findIdx?_eq_none_iff.1 located id member
      simp at unequal

theorem size_setIdAtCell
    (palette : Palette)
    (cell : Nat)
    (id : UInt32) :
    (palette.setIdAtCell cell id).size = palette.size := by
  rcases palette.setIdAtCell_eq cell id with
    ⟨index, known, written⟩ | ⟨-, written⟩
  · rw [written, size, PackedIndices.size_set, size]
  · rw [written, size, PackedIndices.size_set]
    exact (size_extended _ id).trans palette.size_makeRoom

theorem edgeBits_setIdAtCell_eq
    (palette : Palette)
    (cell : Nat)
    (id : UInt32) :
    (palette.setIdAtCell cell id).edgeBits = palette.edgeBits := by
  rcases palette.setIdAtCell_eq cell id with
    ⟨index, known, written⟩ | ⟨-, written⟩
  · rw [written]
  · rw [written]
    exact (edgeBits_extended _ id).trans palette.edgeBits_makeRoom

/--
A full table keeps the entries in use and gets one more when it has to grow.
-/
theorem size_ids_setIdAtCell_of_full
    {palette : Palette}
    (full : palette.size ≤ palette.ids.size)
    {id : UInt32}
    (fresh : id ∉ palette.ids)
    (cell : Nat) :
    (palette.setIdAtCell cell id).ids.size = palette.usedList.length + 1 := by
  have roomy : palette.makeRoom = palette.compact := if_pos full
  rcases palette.setIdAtCell_eq cell id with ⟨index, known, -⟩ | ⟨-, written⟩
  · exact absurd (Array.mem_of_getElem? known) fresh
  · rw [written, roomy]
    simp only [ids_extended, Array.size_push, size_ids_compact]

/--
A well-formed palette of few enough cells and entries for indices of 16 bits.
-/
structure Writable (palette : Palette) : Prop extends palette.WellFormed where
  size_lt : palette.size < 2 ^ 16
  ids_le : palette.ids.size ≤ 2 ^ 16

/-- A section can be written if its table has few enough entries. -/
theorem SectionCube.writable
    {palette : Palette}
    (cube : palette.SectionCube)
    (small : palette.ids.size ≤ 2 ^ 16) :
    palette.Writable where
  toWellFormed := cube.toWellFormed
  size_lt := cube.size_lt
  ids_le := small

namespace Writable

variable {palette : Palette} (writable : palette.Writable)
include writable

theorem setIdAtCell
    {cell : Nat}
    (inside : cell < palette.size)
    (id : UInt32) :
    (palette.setIdAtCell cell id).Writable := by
  have few := writable.size_lt
  rcases palette.setIdAtCell_eq cell id with
    ⟨index, known, written⟩ | ⟨-, written⟩
  · rw [written]
    refine ⟨writable.toWellFormed.setIndex inside
      (Array.getElem?_eq_some_iff.1 known).1, ?_,
      writable.ids_le⟩
    rwa [size, PackedIndices.size_set]
  · have roomy := palette.size_ids_makeRoom_le
    have same : (palette.makeRoom.extended id).size = palette.size := by
      rw [size_extended, size_makeRoom]
    refine ⟨?_, ?_, ?_⟩
    · rw [written]
      apply (writable.makeRoom.extended id).setIndex
      · rwa [same]
      · simp [ids_extended]
    · rwa [size_setIdAtCell]
    · rw [written]
      simp only [ids_extended, Array.size_push]
      omega

/--
A write changes the written cell and no other, even if the table is compacted
for it.
-/
theorem idAtCell_setIdAtCell
    {cell other : Nat}
    (inside : cell < palette.size)
    (otherInside : other < palette.size)
    (id : UInt32) :
    (palette.setIdAtCell cell id).idAtCell other =
      if other = cell then id else palette.idAtCell other := by
  have few := writable.size_lt
  have addressable := writable.ids_le
  rcases palette.setIdAtCell_eq cell id with
    ⟨index, known, written⟩ | ⟨-, written⟩
  · have position := (Array.getElem?_eq_some_iff.1 known).1
    rw [written, writable.idAtCell_setIndex inside known (by omega)]
  · have roomy := palette.size_ids_makeRoom_le
    rw [← palette.size_makeRoom] at inside
    rw [written,
      writable.makeRoom.idAtCell_setIndex_extended (by omega) inside
      (palette.size_makeRoom.symm ▸ otherInside),
      writable.idAtCell_makeRoom few otherInside]

/--
While the table has room, or has the identifier already, a write moves no
other cell to another entry, and the table at most gets one more entry.
-/
theorem setIdAtCell_of_room
    {cell : Nat}
    (inside : cell < palette.size)
    {id : UInt32}
    (room : id ∈ palette.ids ∨ palette.ids.size < palette.size) :
    (palette.setIdAtCell cell id).ids.toList =
        palette.ids.toList ++ (if id ∈ palette.ids then [] else [id]) ∧
      ∀ other, other < palette.size → other ≠ cell →
        (palette.setIdAtCell cell id).indices.get other =
          palette.indices.get other := by
  rcases palette.setIdAtCell_eq cell id with
    ⟨index, known, written⟩ | ⟨fresh, written⟩
  · have member : id ∈ palette.ids := Array.mem_of_getElem? known
    have fits := toNat_toUInt16_lt (Array.getElem?_eq_some_iff.1 known).1
    rw [← writable.width_eq] at fits
    refine ⟨by rw [written, if_pos member, List.append_nil],
      fun other _ apart => ?_⟩
    rw [written, PackedIndices.get_set writable.sized inside fits,
      if_neg apart]
  · have roomy : palette.makeRoom = palette :=
      if_neg (Nat.not_le.2 (room.resolve_left fresh))
    have grown := writable.extended id
    have last : palette.ids.size < (palette.extended id).ids.size := by
      simp [ids_extended]
    have fits := toNat_toUInt16_lt last
    rw [← grown.width_eq] at fits
    rw [roomy] at written
    refine ⟨by rw [written, if_neg fresh, ids_extended, Array.toList_push],
      ?_⟩
    intro other otherInside apart
    rw [written,
      PackedIndices.get_set grown.sized (by rwa [← size, size_extended]) fits,
      if_neg apart, writable.get_extended id otherInside]

end Writable

end Palette

end VoxelRelay
