import VoxelRelay.Palette
import VoxelRelay.Proofs.PackedStorage

/-!
# What the cells of a palette hold

A palette is well formed when its storage has the width that its table calls
for, one index for each cell, and no index past the end of the table.  This is
how palettes are built and kept: a cube of one identifier and a cube that was
built from its indices are well formed, and writing into a cell of a
well-formed palette leaves it so, as long as the table has not outgrown the
cube.

In a well-formed palette every cell reads an entry of the table, and a write
changes the written cell and no other.
-/

namespace VoxelRelay.Palette

/-- The storage fits the table, and every cell refers to one of its entries. -/
structure WellFormed (palette : Palette) : Prop where
  sized : palette.indices.WellSized
  width_eq : palette.width = PackedIndices.widthFor palette.ids.size
  size_eq : palette.size = cellCount palette.edgeBits
  ids_pos : 0 < palette.ids.size
  index_lt : ∀ cell, cell < palette.size →
    (palette.indices.get cell).toNat < palette.ids.size

/-- A well-formed cube of the edge of a section. -/
structure SectionCube (palette : Palette) : Prop
    extends palette.WellFormed where
  edgeBits_eq : palette.edgeBits = blockEdgeBits

/-! ## Reading cells -/

/-- A palette of one identifier reads as it everywhere. -/
theorem idAtCell_of_single?
    {palette : Palette}
    {id : UInt32}
    (single : palette.single? = some id)
    (cell : Nat) :
    palette.idAtCell cell = id := by
  unfold single? at single
  split at single
  · next narrow =>
      cases single
      have first : palette.indices.get cell = 0 := if_pos narrow
      simp [idAtCell, first]
  · cases single

/-- A table of several entries has indices of its cells. -/
theorem WellFormed.single?_eq_none
    {palette : Palette}
    (wellFormed : palette.WellFormed)
    (several : 1 < palette.ids.size) :
    palette.single? = none := by
  apply if_neg
  rw [wellFormed.width_eq, PackedIndices.widthFor_eq_zero_iff]
  exact Nat.not_le.2 several

theorem WellFormed.idAtCell_mem
    {palette : Palette}
    (wellFormed : palette.WellFormed)
    {cell : Nat}
    (inside : cell < palette.size) :
    palette.idAtCell cell ∈ palette.ids := by
  have bound := wellFormed.index_lt cell inside
  simp [idAtCell, Array.getD, bound]

/-- A palette without an entry that passes a test has no cell that does. -/
theorem WellFormed.not_test_of_not_anyId
    {palette : Palette}
    (wellFormed : palette.WellFormed)
    {test : UInt32 → Bool}
    (none : palette.anyId test = false)
    {cell : Nat}
    (inside : cell < palette.size) :
    test (palette.idAtCell cell) = false := by
  rw [anyId, Array.any_eq_false'] at none
  simpa using none _ (wellFormed.idAtCell_mem inside)

namespace SectionCube

variable {palette : Palette} (cube : palette.SectionCube)
include cube

theorem edge_eq : palette.edge = 16 := by
  rw [edge, cube.edgeBits_eq]
  rfl

theorem forall_mem_singleton : ∀ other ∈ #[palette], other.SectionCube := by
  intro other member
  rwa [List.mem_singleton.1 (List.mem_toArray.1 member)]

theorem size_eq_4096 : palette.size = 4096 := by
  rw [cube.size_eq, cube.edgeBits_eq]
  rfl

theorem size_lt : palette.size < 2 ^ 16 := by
  rw [cube.size_eq_4096]
  decide

theorem cell_eq (x y z : Nat) :
    palette.cell x y z = (y * 16 + z) * 16 + x := by
  rw [cell, cube.edge_eq]

theorem cell_lt
    {x y z : Nat}
    (xLt : x < 16)
    (yLt : y < 16)
    (zLt : z < 16) :
    palette.cell x y z < palette.size := by
  rw [cube.cell_eq, cube.size_eq_4096]
  omega

end SectionCube

/-! ## Building and writing -/

theorem wellFormed_filled
    (edgeBits : Nat)
    (id : UInt32) :
    (filled edgeBits id).WellFormed where
  sized := PackedIndices.wellSized_zeroed (Or.inl rfl) _
  width_eq := rfl
  size_eq := rfl
  ids_pos := by simp [filled]
  index_lt := by
    intro cell _
    simp [filled, PackedIndices.get]

theorem sectionCube_blocks (id : UInt32) : (blocks id).SectionCube :=
  ⟨wellFormed_filled blockEdgeBits id, rfl⟩

@[simp]
theorem idAtCell_filled
    (edgeBits : Nat)
    (id : UInt32)
    (cell : Nat) :
    (filled edgeBits id).idAtCell cell = id :=
  idAtCell_of_single? rfl cell

/--
A table position that was cut to 16 bits is no larger and fits the width of
the table.
-/
theorem toNat_toUInt16_lt
    {index count : Nat}
    (inside : index < count) :
    index.toUInt16.toNat < 2 ^ PackedIndices.widthFor count := by
  have cut : index.toUInt16.toNat = index % 2 ^ 16 := rfl
  rcases Nat.lt_or_ge (2 ^ 16) count with large | small
  · have widest : PackedIndices.widthFor count = 16 := by
      unfold PackedIndices.widthFor
      split_ifs <;> omega
    rw [cut, widest]
    omega
  · have enough := PackedIndices.le_two_pow_widthFor small
    rw [cut]
    omega

/--
A cube is built from a table with entries and one index for each cell, all in
the table.
-/
theorem ofIndices_eq_ok
    {edgeBits : Nat}
    {ids : Array UInt32}
    {cells : Array UInt16}
    {palette : Palette}
    (built : ofIndices edgeBits ids cells = .ok palette) :
    0 < ids.size ∧
      (∀ cell, cell < cellCount edgeBits →
        (cells.getD cell 0).toNat < ids.size) ∧
      palette =
        { edgeBits := edgeBits
          ids := ids
          indices :=
            .ofFn (PackedIndices.widthFor ids.size) (cellCount edgeBits)
              (cells.getD · 0) } := by
  unfold ofIndices at built
  split_ifs at built with miscounted unlisted
  split at built
  · cases built
  · next accepted =>
      cases built
      refine ⟨by simpa [Array.size_pos_iff] using unlisted, ?_, rfl⟩
      intro cell inside
      have counted : cells.size = cellCount edgeBits := not_not.1 miscounted
      have known :=
        Array.find?_eq_none.1 accepted cells[cell]
          (Array.getElem_mem (by omega))
      rw [Array.getD_eq_getD_getElem?, Array.getElem?_eq_getElem (by omega),
        Option.getD_some]
      simpa using known

/--
Positions in a table are stored as they are at the width that the table calls
for.
-/
theorem get_ofFn_of_listed
    {ids : Array UInt32}
    {cells : Array UInt16}
    {count : Nat}
    (listed : ∀ cell, cell < count → (cells.getD cell 0).toNat < ids.size)
    {cell : Nat}
    (inside : cell < count) :
    (PackedIndices.ofFn (PackedIndices.widthFor ids.size) count
      (cells.getD · 0)).get cell =
      cells.getD cell 0 := by
  apply PackedIndices.get_ofFn (PackedIndices.supported_widthFor _) _ inside
  intro other otherInside
  have narrow := toNat_toUInt16_lt (listed other otherInside)
  rwa [Nat.toUInt16_eq, UInt16.ofNat_toNat] at narrow

/--
A cube that was built from its indices is well formed, and its cells read
them.
-/
theorem wellFormed_of_ofIndices
    {edgeBits : Nat}
    {ids : Array UInt32}
    {cells : Array UInt16}
    {palette : Palette}
    (built : ofIndices edgeBits ids cells = .ok palette) :
    palette.WellFormed ∧ palette.edgeBits = edgeBits ∧
      ∀ cell, cell < palette.size →
        palette.idAtCell cell = ids.getD (cells.getD cell 0).toNat 0 := by
  obtain ⟨entries, listed, rfl⟩ := ofIndices_eq_ok built
  have size_eq :
      (PackedIndices.ofFn (PackedIndices.widthFor ids.size)
        (cellCount edgeBits) (cells.getD · 0)).size =
        cellCount edgeBits := PackedIndices.size_ofFn _ _ _
  have stored : ∀ cell, cell < cellCount edgeBits →
      (PackedIndices.ofFn (PackedIndices.widthFor ids.size)
        (cellCount edgeBits) (cells.getD · 0)).get cell = cells.getD cell 0 :=
    fun _ inside => get_ofFn_of_listed listed inside
  refine ⟨⟨PackedIndices.wellSized_ofFn
      (PackedIndices.supported_widthFor _) _ _,
    PackedIndices.width_ofFn _ _ _, size_eq, entries, ?_⟩, rfl, ?_⟩
  · intro cell inside
    rw [stored cell (size_eq ▸ inside)]
    exact listed cell (size_eq ▸ inside)
  · intro cell inside
    rw [idAtCell, stored cell (size_eq ▸ inside)]

/-- The table with one more entry, its storage widened to match. -/
def extended (palette : Palette) (id : UInt32) : Palette :=
  { palette with ids := palette.ids.push id }.widen

/--
The indices are stored anew exactly when the table has outgrown their width.
-/
theorem extended_cases
    (palette : Palette)
    (id : UInt32) :
    (palette.width < PackedIndices.widthFor (palette.ids.size + 1) ∧
      palette.extended id =
        { palette with
          ids := palette.ids.push id
          indices :=
            palette.indices.withWidth
              (PackedIndices.widthFor (palette.ids.size + 1)) }) ∨
    (PackedIndices.widthFor (palette.ids.size + 1) ≤ palette.width ∧
      palette.extended id = { palette with ids := palette.ids.push id }) := by
  by_cases narrow :
      palette.width < PackedIndices.widthFor (palette.ids.size + 1)
  · refine Or.inl ⟨narrow, ?_⟩
    have pushed : palette.width <
        PackedIndices.widthFor (palette.ids.push id).size := by
      rwa [Array.size_push]
    rw [← Array.size_push id]
    exact if_pos pushed
  · refine Or.inr ⟨Nat.not_lt.1 narrow, ?_⟩
    have pushed : ¬ palette.width <
        PackedIndices.widthFor (palette.ids.push id).size := by
      rwa [Array.size_push]
    exact if_neg pushed

theorem ids_extended
    (palette : Palette)
    (id : UInt32) :
    (palette.extended id).ids = palette.ids.push id := by
  rcases extended_cases palette id with ⟨-, equal⟩ | ⟨-, equal⟩ <;> rw [equal]

theorem edgeBits_extended
    (palette : Palette)
    (id : UInt32) :
    (palette.extended id).edgeBits = palette.edgeBits := by
  rcases extended_cases palette id with ⟨-, equal⟩ | ⟨-, equal⟩ <;> rw [equal]

theorem size_extended
    (palette : Palette)
    (id : UInt32) :
    (palette.extended id).size = palette.size := by
  rcases extended_cases palette id with ⟨-, equal⟩ | ⟨-, equal⟩ <;> rw [equal]
  · exact PackedIndices.size_ofFn _ _ _
  · rfl

/-- Widening the storage moves no index. -/
theorem WellFormed.get_extended
    {palette : Palette}
    (wellFormed : palette.WellFormed)
    (id : UInt32)
    {cell : Nat}
    (inside : cell < palette.size) :
    (palette.extended id).indices.get cell = palette.indices.get cell := by
  rcases extended_cases palette id with
    ⟨narrow, equal⟩ | ⟨-, equal⟩ <;> rw [equal]
  apply PackedIndices.get_ofFn (PackedIndices.supported_widthFor _) _ inside
  intro other otherInside
  exact lt_of_lt_of_le (PackedIndices.toNat_get_lt wellFormed.sized other)
    (Nat.pow_le_pow_right (by decide) (Nat.le_of_lt narrow))

/-- An entry that no cell refers to changes no cell. -/
theorem WellFormed.idAtCell_extended
    {palette : Palette}
    (wellFormed : palette.WellFormed)
    (id : UInt32)
    {cell : Nat}
    (inside : cell < palette.size) :
    (palette.extended id).idAtCell cell = palette.idAtCell cell := by
  have bound := wellFormed.index_lt cell inside
  rw [idAtCell, wellFormed.get_extended id inside, ids_extended, idAtCell]
  simp [Array.getD_eq_getD_getElem?, Array.getElem?_push, Nat.ne_of_lt bound]

theorem WellFormed.extended
    {palette : Palette}
    (wellFormed : palette.WellFormed)
    (id : UInt32) :
    (palette.extended id).WellFormed where
  sized := by
    rcases extended_cases palette id with
      ⟨-, equal⟩ | ⟨-, equal⟩ <;> rw [equal]
    · exact PackedIndices.wellSized_ofFn
        (PackedIndices.supported_widthFor _) _ _
    · exact wellFormed.sized
  width_eq := by
    rw [ids_extended, Array.size_push]
    rcases extended_cases palette id with
      ⟨-, equal⟩ | ⟨wide, equal⟩ <;> rw [equal]
    · exact PackedIndices.width_ofFn _ _ _
    · have grows : palette.width ≤
          PackedIndices.widthFor (palette.ids.size + 1) := by
        rw [wellFormed.width_eq]
        exact PackedIndices.widthFor_le_of_le (Nat.le_succ _)
      exact le_antisymm grows wide
  size_eq := by
    rw [size_extended, edgeBits_extended, wellFormed.size_eq]
  ids_pos := by simp [ids_extended]
  index_lt := by
    intro cell inside
    rw [size_extended] at inside
    rw [wellFormed.get_extended id inside, ids_extended, Array.size_push]
    exact Nat.lt_succ_of_lt (wellFormed.index_lt cell inside)

/--
Overwriting the index of a cell by a table position keeps a palette well
formed.
-/
theorem WellFormed.setIndex
    {palette : Palette}
    (wellFormed : palette.WellFormed)
    {cell index : Nat}
    (inside : cell < palette.size)
    (known : index < palette.ids.size) :
    { palette with
      indices := palette.indices.set cell index.toUInt16 }.WellFormed where
  sized := wellFormed.sized.set _ _
  width_eq := by
    rw [← wellFormed.width_eq]
    exact PackedIndices.width_set _ _ _
  size_eq := by
    rw [← wellFormed.size_eq]
    exact PackedIndices.size_set _ _ _
  ids_pos := wellFormed.ids_pos
  index_lt := by
    intro other otherInside
    have otherInside : other < palette.size := by
      simpa [size] using otherInside
    have fits := toNat_toUInt16_lt known
    rw [← wellFormed.width_eq] at fits
    rw [PackedIndices.get_set wellFormed.sized inside fits]
    split
    · have cut : index.toUInt16.toNat = index % 2 ^ 16 := rfl
      rw [cut]
      exact lt_of_le_of_lt (Nat.mod_le _ _) known
    · exact wellFormed.index_lt other otherInside

/-- While the table is smaller than the cube, a new entry is simply appended. -/
theorem appendId_of_room
    {palette : Palette}
    (room : palette.ids.size < palette.size)
    (id : UInt32) :
    palette.appendId id = palette.extended id := by
  rw [appendId, makeRoom, if_neg (Nat.not_le.2 room)]
  rfl

/--
A write as the overwriting of one index, in the table or in the table with one
more entry.
-/
theorem setIdAtCell_cases
    {palette : Palette}
    (room : palette.ids.size < palette.size)
    (cell : Nat)
    (id : UInt32) :
    (∃ index : Nat, palette.ids[index]? = some id ∧
      palette.setIdAtCell cell id =
        { palette with indices := palette.indices.set cell index.toUInt16 }) ∨
    palette.setIdAtCell cell id =
      { palette.extended id with
        indices :=
          (palette.extended id).indices.set cell
            palette.ids.size.toUInt16 } := by
  unfold setIdAtCell intern
  cases located : palette.ids.findIdx? (· == id) with
  | some index =>
      left
      obtain ⟨inside, matching, -⟩ :=
        Array.findIdx?_eq_some_iff_getElem.1 located
      refine ⟨index, ?_, rfl⟩
      rw [Array.getElem?_eq_getElem inside]
      simpa using matching
  | none =>
      right
      simp [addId, lastIndex, appendId_of_room room, ids_extended]

theorem WellFormed.setIdAtCell
    {palette : Palette}
    (wellFormed : palette.WellFormed)
    (room : palette.ids.size < palette.size)
    {cell : Nat}
    (inside : cell < palette.size)
    (id : UInt32) :
    (palette.setIdAtCell cell id).WellFormed := by
  rcases setIdAtCell_cases room cell id with ⟨index, known, written⟩ | written
  · rw [written]
    exact wellFormed.setIndex inside (Array.getElem?_eq_some_iff.1 known).1
  · rw [written]
    apply (wellFormed.extended id).setIndex
    · rwa [size_extended]
    · simp [ids_extended]

/--
Overwriting the index of a cell by a table position lets it read the entry
there.
-/
theorem WellFormed.idAtCell_setIndex
    {palette : Palette}
    (wellFormed : palette.WellFormed)
    {cell index : Nat}
    {id : UInt32}
    (inside : cell < palette.size)
    (known : palette.ids[index]? = some id)
    (addressable : index < 2 ^ 16)
    (other : Nat) :
    { palette with
      indices := palette.indices.set cell index.toUInt16 }.idAtCell other =
      if other = cell then id else palette.idAtCell other := by
  have whole : index.toUInt16.toNat = index := Nat.mod_eq_of_lt addressable
  have fits := toNat_toUInt16_lt (Array.getElem?_eq_some_iff.1 known).1
  rw [← wellFormed.width_eq] at fits
  rw [idAtCell, PackedIndices.get_set wellFormed.sized inside fits]
  split
  · rw [whole, Array.getD_eq_getD_getElem?, known]
    rfl
  · rfl

/-- A cell that gets a new entry of the table reads it. -/
theorem WellFormed.idAtCell_setIndex_extended
    {palette : Palette}
    (wellFormed : palette.WellFormed)
    (addressable : palette.ids.size < 2 ^ 16)
    {cell other : Nat}
    (inside : cell < palette.size)
    (otherInside : other < palette.size)
    (id : UInt32) :
    { palette.extended id with
      indices :=
        (palette.extended id).indices.set cell palette.ids.size.toUInt16
          }.idAtCell
          other =
      if other = cell then id else palette.idAtCell other := by
  have known : (palette.extended id).ids[palette.ids.size]? = some id := by
    rw [ids_extended, Array.getElem?_push_size]
  rw [← size_extended palette id] at inside
  rw [(wellFormed.extended id).idAtCell_setIndex inside known addressable,
    wellFormed.idAtCell_extended id otherInside]

/-- A write changes the written cell and no other. -/
theorem WellFormed.idAtCell_setIdAtCell
    {palette : Palette}
    (wellFormed : palette.WellFormed)
    (room : palette.ids.size < palette.size)
    (addressable : palette.ids.size < 2 ^ 16)
    {cell other : Nat}
    (inside : cell < palette.size)
    (otherInside : other < palette.size)
    (id : UInt32) :
    (palette.setIdAtCell cell id).idAtCell other =
      if other = cell then id else palette.idAtCell other := by
  rcases setIdAtCell_cases room cell id with ⟨index, known, written⟩ | written
  · have position := (Array.getElem?_eq_some_iff.1 known).1
    rw [written, wellFormed.idAtCell_setIndex inside known (by omega)]
  · rw [written,
      wellFormed.idAtCell_setIndex_extended addressable inside otherInside]

theorem edgeBits_setIdAtCell
    {palette : Palette}
    (room : palette.ids.size < palette.size)
    (cell : Nat)
    (id : UInt32) :
    (palette.setIdAtCell cell id).edgeBits = palette.edgeBits := by
  rcases setIdAtCell_cases room cell id with ⟨index, -, written⟩ | written
  · rw [written]
  · rw [written]
    exact edgeBits_extended palette id

namespace SectionCube

variable {palette : Palette} (cube : palette.SectionCube)
include cube

theorem extended (id : UInt32) : (palette.extended id).SectionCube :=
  ⟨cube.toWellFormed.extended id,
    (edgeBits_extended palette id).trans cube.edgeBits_eq⟩

theorem setIdAt
    (room : palette.ids.size < 4096)
    {x y z : Nat}
    (xLt : x < 16)
    (yLt : y < 16)
    (zLt : z < 16)
    (id : UInt32) :
    (palette.setIdAt x y z id).SectionCube := by
  have roomy : palette.ids.size < palette.size := by rwa [cube.size_eq_4096]
  refine ⟨cube.toWellFormed.setIdAtCell roomy (cube.cell_lt xLt yLt zLt) id,
    ?_⟩
  exact (edgeBits_setIdAtCell roomy _ id).trans cube.edgeBits_eq

/-- A write at a place of a section changes that place and no other. -/
theorem idAt_setIdAt
    (room : palette.ids.size < 4096)
    {x y z : Nat}
    (xLt : x < 16)
    (yLt : y < 16)
    (zLt : z < 16)
    (id : UInt32)
    {otherX otherY otherZ : Nat}
    (otherXLt : otherX < 16)
    (otherYLt : otherY < 16)
    (otherZLt : otherZ < 16) :
    (palette.setIdAt x y z id).idAt otherX otherY otherZ =
      if otherX = x ∧ otherY = y ∧ otherZ = z then id
      else palette.idAt otherX otherY otherZ := by
  have roomy : palette.ids.size < palette.size := by rwa [cube.size_eq_4096]
  have written := cube.setIdAt room xLt yLt zLt id
  have samePlace : palette.cell otherX otherY otherZ = palette.cell x y z ↔
      otherX = x ∧ otherY = y ∧ otherZ = z := by
    rw [cube.cell_eq, cube.cell_eq]
    omega
  rw [Palette.idAt, written.cell_eq, ← cube.cell_eq, Palette.setIdAt,
    cube.toWellFormed.idAtCell_setIdAtCell roomy (by omega)
      (cube.cell_lt xLt yLt zLt) (cube.cell_lt otherXLt otherYLt otherZLt)]
  simp only [samePlace]
  rfl

end SectionCube

end VoxelRelay.Palette
