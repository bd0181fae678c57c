import VoxelRelay.Proofs.BorderLight
import VoxelRelay.Proofs.CellWrites

/-!
# Accesses within their bounds

The functions of the model are total: where an index lies past the end, they
fall back on some value.  To say that this never happens, each of them has a
checked form, in which every access to a packed index, a table entry, a cell, a
section or a slab of light is made only if it lies within its bounds, and
which has no value otherwise.  A checked form that has the value of the plain
one has made no access out of bounds.

This module has the checked accesses to palettes.  They succeed on palettes
that are well formed and cells that lie in the cube, however a write has to
change the table: when it grows and is stored anew, and when it is compacted
first.
-/

namespace VoxelRelay

/-! ## Checked steps -/

/--
A fold succeeds if its steps do as long as something holds that they keep.
-/
theorem foldlM_eq_some
    {State Element : Type}
    {step : State → Element → Option State}
    {plain : State → Element → State}
    (holds : State → Prop)
    {elements : List Element}
    (kept : ∀ state, holds state →
      ∀ element ∈ elements, step state element = some (plain state element) ∧
        holds (plain state element))
    {state : State}
    (start : holds state) :
    elements.foldlM step state = some (elements.foldl plain state) ∧
      holds (elements.foldl plain state) := by
  induction elements generalizing state with
  | nil => exact ⟨rfl, start⟩
  | cons element rest ih =>
      obtain ⟨done, after⟩ := kept state start element List.mem_cons_self
      rw [List.foldlM_cons, done]
      exact ih (fun other held later member => kept other held later
        (List.mem_cons_of_mem _ member)) after

/-- What succeeds for every element of a list succeeds for the list. -/
theorem mapM_eq_some
    {Element Value : Type}
    {checked : Element → Option Value}
    {plain : Element → Value}
    {elements : List Element}
    (each : ∀ element ∈ elements, checked element = some (plain element)) :
    elements.mapM checked = some (elements.map plain) := by
  induction elements with
  | nil => rfl
  | cons element rest ih =>
      rw [List.mapM_cons, each element List.mem_cons_self,
        ih fun later member => each later (List.mem_cons_of_mem _ member)]
      rfl

namespace PackedIndices

/-- An entry and the word that holds it are there. -/
def Has (store : PackedIndices) (index : Nat) : Prop :=
  index < store.size ∧
  (store.width = 0 ∨ store.wordOf index < store.words.size)

instance
    (store : PackedIndices)
    (index : Nat) : Decidable (store.Has index) :=
  inferInstanceAs (Decidable (_ ∧ _))

/-- The entry at `index`, if it is there. -/
def getChecked (store : PackedIndices) (index : Nat) : Option UInt16 :=
  if store.Has index then some (store.get index) else none

/-- Overwrites the entry at `index`, if it is there. -/
def setChecked
    (store : PackedIndices)
    (index : Nat)
    (value : UInt16) : Option PackedIndices :=
  if store.Has index then some (store.set index value) else none

/-- A store of the given entries, each of which may be missing. -/
def ofFnChecked
    (width size : Nat)
    (entry : Nat → Option UInt16) : Option PackedIndices :=
  (List.range size).foldlM
    (fun store index => do store.setChecked index (← entry index))
    (zeroed width size)

/-- Stores the same entries at another width. -/
def withWidthChecked
    (store : PackedIndices)
    (width : Nat) : Option PackedIndices :=
  ofFnChecked width store.size store.getChecked

variable {store : PackedIndices}

theorem WellSized.has
    (sized : store.WellSized)
    {index : Nat}
    (inside : index < store.size) :
    store.Has index :=
  ⟨inside, Decidable.or_iff_not_imp_left.2 fun stored =>
    wordOf_lt sized stored inside⟩

theorem WellSized.getChecked_eq
    (sized : store.WellSized)
    {index : Nat}
    (inside : index < store.size) :
    store.getChecked index = some (store.get index) :=
  if_pos (sized.has inside)

theorem WellSized.setChecked_eq
    (sized : store.WellSized)
    {index : Nat}
    (inside : index < store.size)
    (value : UInt16) :
    store.setChecked index value = some (store.set index value) :=
  if_pos (sized.has inside)

/-- A store is built within its bounds if all of its entries are there. -/
theorem ofFnChecked_eq
    {width size : Nat}
    (supported : Supported width)
    {entry : Nat → Option UInt16}
    {plain : Nat → UInt16}
    (entries : ∀ index, index < size → entry index = some (plain index)) :
    ofFnChecked width size entry = some (ofFn width size plain) := by
  rw [ofFn, fold_eq_foldl_range size fun (store : PackedIndices) index =>
    store.set index (plain index)]
  refine (foldlM_eq_some (fun store => store.WellSized ∧ store.size = size) ?_
    ⟨wellSized_zeroed supported size, rfl⟩).1
  rintro store ⟨sized, sizeEq⟩ index member
  have inside := List.mem_range.1 member
  refine ⟨?_, sized.set _ _, by rw [size_set, sizeEq]⟩
  rw [entries index inside]
  exact sized.setChecked_eq (sizeEq.symm ▸ inside) _

theorem WellSized.withWidthChecked_eq
    (sized : store.WellSized)
    {width : Nat}
    (supported : Supported width) :
    store.withWidthChecked width = some (store.withWidth width) :=
  ofFnChecked_eq supported fun _ inside => sized.getChecked_eq inside

end PackedIndices

namespace Palette

/-! ## Reading cells -/

instance
    (palette : Palette)
    (place : Place) : Decidable (palette.Inside place) :=
  inferInstanceAs (Decidable (_ ∧ _))

/--
The identifier of a numbered cell, if the cell and its table entry are there.
-/
def idAtCellChecked (palette : Palette) (cell : Nat) : Option UInt32 := do
  palette.ids[(← palette.indices.getChecked cell).toNat]?

/-- The table index of the cell at `(x, y, z)`, if it lies in the cube. -/
def indexAtChecked (palette : Palette) (x y z : Nat) : Option UInt16 :=
  if palette.Inside (x, y, z) then
    palette.indices.getChecked (palette.cell x y z) else none

/-- The identifier of the cell at `(x, y, z)`, if it lies in the cube. -/
def idAtChecked (palette : Palette) (x y z : Nat) : Option UInt32 :=
  if palette.Inside (x, y, z) then
    palette.idAtCellChecked (palette.cell x y z) else none

/-- The identifier that fills the whole cube, if the palette is in that form. -/
def singleChecked (palette : Palette) : Option (Option UInt32) :=
  if palette.width = 0 then palette.ids[0]?.map some else some none

/-- The identifier of every cell, in cell order. -/
def toListChecked (palette : Palette) : Option (List UInt32) :=
  (List.range palette.size).mapM palette.idAtCellChecked

variable {palette : Palette}

theorem WellFormed.getElem?_get
    (wellFormed : palette.WellFormed)
    {cell : Nat}
    (inside : cell < palette.size) :
    palette.ids[(palette.indices.get cell).toNat]? =
      some (palette.idAtCell cell) := by
  have known := wellFormed.index_lt cell inside
  rw [idAtCell, Array.getD_eq_getD_getElem?, Array.getElem?_eq_getElem known,
    Option.getD_some]

theorem WellFormed.idAtCellChecked_eq
    (wellFormed : palette.WellFormed)
    {cell : Nat}
    (inside : cell < palette.size) :
    palette.idAtCellChecked cell = some (palette.idAtCell cell) := by
  rw [idAtCellChecked, wellFormed.sized.getChecked_eq inside]
  exact wellFormed.getElem?_get inside

theorem WellFormed.cell_lt
    (wellFormed : palette.WellFormed)
    {x y z : Nat}
    (inside : palette.Inside (x, y, z)) :
    palette.cell x y z < palette.size :=
  wellFormed.number_lt inside

theorem WellFormed.indexAtChecked_eq
    (wellFormed : palette.WellFormed)
    {x y z : Nat}
    (inside : palette.Inside (x, y, z)) :
    palette.indexAtChecked x y z = some (palette.indexAt x y z) := by
  rw [indexAtChecked, if_pos inside]
  exact wellFormed.sized.getChecked_eq (wellFormed.cell_lt inside)

theorem WellFormed.idAtChecked_eq
    (wellFormed : palette.WellFormed)
    {x y z : Nat}
    (inside : palette.Inside (x, y, z)) :
    palette.idAtChecked x y z = some (palette.idAt x y z) := by
  rw [idAtChecked, if_pos inside]
  exact wellFormed.idAtCellChecked_eq (wellFormed.cell_lt inside)

/--
A cell past the edge has a value, but it is not to be had within the bounds.
-/
example : (blocks 7).idAtChecked 16 4 5 = none ∧
    (blocks 7).idAt 16 4 5 = 7 := by decide

theorem WellFormed.singleChecked_eq (wellFormed : palette.WellFormed) :
    palette.singleChecked = some palette.single? := by
  rw [singleChecked, single?]
  split
  · rw [Array.getD_eq_getD_getElem?,
      Array.getElem?_eq_getElem wellFormed.ids_pos]
    rfl
  · rfl

theorem WellFormed.toListChecked_eq (wellFormed : palette.WellFormed) :
    palette.toListChecked = some palette.toList :=
  mapM_eq_some fun _ member =>
    wellFormed.idAtCellChecked_eq (List.mem_range.1 member)

theorem SectionCube.inside
    (cube : palette.SectionCube)
    {x y z : Nat}
    (xLt : x < 16)
    (yLt : y < 16)
    (zLt : z < 16) :
    palette.Inside (x, y, z) := by
  rw [Inside, cube.edge_eq]
  exact ⟨xLt, yLt, zLt⟩

theorem SectionCube.idAtChecked_eq
    (cube : palette.SectionCube)
    {x y z : Nat}
    (xLt : x < 16)
    (yLt : y < 16)
    (zLt : z < 16) :
    palette.idAtChecked x y z = some (palette.idAt x y z) :=
  cube.toWellFormed.idAtChecked_eq (cube.inside xLt yLt zLt)

/-! ## Writing cells -/

/-- Marks the table entries that some cell refers to. -/
def usedEntriesChecked (palette : Palette) : Option (Array Bool) :=
  (List.range palette.size).foldlM (fun used cell => do
    let index ← palette.indices.getChecked cell
    if index.toNat < used.size then some (used.setIfInBounds index.toNat true)
    else none)
    (Array.replicate palette.ids.size false)

/--
Drops the table entries that no cell refers to and renumbers the rest in their
order.
-/
def compactChecked (palette : Palette) : Option Palette := do
  let used ← palette.usedEntriesChecked
  let (ids, renumbered) ← (List.range palette.ids.size).foldlM
    (fun (kept : Array UInt32 × Array UInt16) old => do
      let id ← palette.ids[old]?
      let keeps ← used[old]?
      if keeps then some (kept.1.push id, kept.2.push kept.1.size.toUInt16)
      else some (kept.1, kept.2.push 0))
    (#[], #[])
  let indices ← PackedIndices.ofFnChecked (PackedIndices.widthFor ids.size)
    palette.size
    fun cell => do renumbered[(← palette.indices.getChecked cell).toNat]?
  return { palette with ids := ids, indices := indices }

/-- Drops unused entries once the table has as many as the cube has cells. -/
def makeRoomChecked (palette : Palette) : Option Palette :=
  if palette.size ≤ palette.ids.size then palette.compactChecked
  else some palette

/-- Makes the indices wide enough for the table. -/
def widenChecked (palette : Palette) : Option Palette :=
  let needed := PackedIndices.widthFor palette.ids.size
  if palette.width < needed then do
    return { palette with
      indices := ← palette.indices.withWidthChecked needed }
  else some palette

/--
Finds the first table entry for an identifier, adding one when there is none.
-/
def internChecked
    (palette : Palette)
    (id : UInt32) : Option (Palette × UInt16) :=
  match palette.ids.findIdx? (· == id) with
  | some index => some (palette, index.toUInt16)
  | none => do
      let roomy ← palette.makeRoomChecked
      let extended ← { roomy with ids := roomy.ids.push id }.widenChecked
      return (extended, extended.lastIndex)

/-- Writes an identifier into a numbered cell, if it is there. -/
def setIdAtCellChecked
    (palette : Palette)
    (cell : Nat)
    (id : UInt32) : Option Palette := do
  let (interned, index) ← palette.internChecked id
  return { interned with indices := ← interned.indices.setChecked cell index }

/--
Writes an identifier into the cell at `(x, y, z)`, if it lies in the cube.
-/
def setIdAtChecked
    (palette : Palette)
    (x y z : Nat)
    (id : UInt32) : Option Palette :=
  if palette.Inside (x, y, z) then
    palette.setIdAtCellChecked (palette.cell x y z) id else none

theorem WellFormed.usedEntriesChecked_eq (wellFormed : palette.WellFormed) :
    palette.usedEntriesChecked = some palette.usedEntries ∧
      palette.usedEntries.size = palette.ids.size := by
  rw [usedEntries,
    fold_eq_foldl_range palette.size fun (used : Array Bool) cell =>
      used.setIfInBounds (palette.indices.get cell).toNat true]
  refine foldlM_eq_some
    (fun used : Array Bool => used.size = palette.ids.size) ?_
    Array.size_replicate
  intro used sizeEq cell member
  have inside := List.mem_range.1 member
  refine ⟨?_, by rw [Array.size_setIfInBounds, sizeEq]⟩
  rw [wellFormed.sized.getChecked_eq inside]
  exact if_pos (sizeEq.symm ▸ wellFormed.index_lt cell inside)

/-- Keeps or drops the next table entry when a table is compacted. -/
def keepEntry
    (palette : Palette)
    (kept : Array UInt32 × Array UInt16)
    (old : Nat) : Array UInt32 × Array UInt16 :=
  if palette.usedEntries.getD old false then
    (kept.1.push (palette.ids.getD old 0), kept.2.push kept.1.size.toUInt16)
  else (kept.1, kept.2.push 0)

/--
The entries that are kept when a table is compacted, and the new number of
each entry.
-/
def keptEntries
    (palette : Palette)
    (count : Nat) : Array UInt32 × Array UInt16 :=
  (List.range count).foldl palette.keepEntry (#[], #[])

theorem size_keptEntries
    (palette : Palette)
    (count : Nat) :
    (palette.keptEntries count).2.size = count := by
  induction count with
  | zero => rfl
  | succ count ih =>
      rw [keptEntries, List.range_succ, List.foldl_concat, ← keptEntries,
        keepEntry]
      split <;> rw [Array.size_push, ih]

theorem compact_eq_of_kept (palette : Palette) :
    let kept := palette.keptEntries palette.ids.size
    palette.compact =
      { palette with
        ids := kept.1
        indices :=
          .ofFn (PackedIndices.widthFor kept.1.size) palette.size fun cell =>
            kept.2.getD (palette.indices.get cell).toNat 0 } :=
  congrArg (fun kept : Array UInt32 × Array UInt16 =>
    { palette with
      ids := kept.1
      indices :=
        .ofFn (PackedIndices.widthFor kept.1.size) palette.size fun cell =>
          kept.2.getD (palette.indices.get cell).toNat 0 })
    (fold_eq_foldl_range palette.ids.size palette.keepEntry (#[], #[]))

/--
Compacting reads the table, the marks and the new numbers within their bounds.
-/
theorem WellFormed.compactChecked_eq (wellFormed : palette.WellFormed) :
    palette.compactChecked = some palette.compact := by
  obtain ⟨marked, marks⟩ := wellFormed.usedEntriesChecked_eq
  have kept : (List.range palette.ids.size).foldlM
      (fun (kept : Array UInt32 × Array UInt16) old => do
        let id ← palette.ids[old]?
        let keeps ← palette.usedEntries[old]?
        if keeps then some (kept.1.push id, kept.2.push kept.1.size.toUInt16)
        else some (kept.1, kept.2.push 0)) (#[], #[]) =
      some (palette.keptEntries palette.ids.size) := by
    refine (foldlM_eq_some (fun _ => True) ?_ trivial).1
    intro kept _ old member
    have inside := List.mem_range.1 member
    refine ⟨?_, trivial⟩
    rw [keepEntry, Array.getD_eq_getD_getElem?, Array.getD_eq_getD_getElem?,
      Array.getElem?_eq_getElem inside,
      Array.getElem?_eq_getElem (marks.symm ▸ inside)]
    simp only [Option.bind_eq_bind, Option.bind_some, Option.getD_some]
    split <;> rfl
  have renumbered : PackedIndices.ofFnChecked
      (PackedIndices.widthFor (palette.keptEntries palette.ids.size).1.size)
      palette.size
      (fun cell => (palette.indices.getChecked cell).bind fun index =>
        (palette.keptEntries palette.ids.size).2[index.toNat]?) =
      some palette.compact.indices := by
    rw [compact_eq_of_kept]
    apply PackedIndices.ofFnChecked_eq (PackedIndices.supported_widthFor _)
    intro cell inside
    have known := wellFormed.index_lt cell inside
    rw [← palette.size_keptEntries palette.ids.size] at known
    rw [wellFormed.sized.getChecked_eq inside, Option.bind_some,
      Array.getD_eq_getD_getElem?, Array.getElem?_eq_getElem known,
      Option.getD_some]
  rw [compactChecked, marked, Option.bind_eq_bind, Option.bind_some, kept]
  dsimp only [Option.bind_eq_bind, Option.bind_some]
  rw [renumbered, compact_eq_of_kept]
  rfl

theorem WellFormed.makeRoomChecked_eq (wellFormed : palette.WellFormed) :
    palette.makeRoomChecked = some palette.makeRoom := by
  rw [makeRoomChecked, Palette.makeRoom]
  split
  · exact wellFormed.compactChecked_eq
  · rfl

theorem widenChecked_eq (sized : palette.indices.WellSized) :
    palette.widenChecked = some palette.widen := by
  rw [widenChecked, widen]
  split
  · rw [sized.withWidthChecked_eq (PackedIndices.supported_widthFor _)]
    rfl
  · rfl

theorem WellFormed.internChecked_eq
    (wellFormed : palette.WellFormed)
    (id : UInt32) :
    palette.internChecked id = some (palette.intern id) := by
  rw [internChecked, intern]
  cases palette.ids.findIdx? (· == id) with
  | some index => rfl
  | none =>
      have pushed :
          { palette.makeRoom with
            ids := palette.makeRoom.ids.push id }.widenChecked =
          some (palette.appendId id) :=
            widenChecked_eq wellFormed.makeRoom.sized
      simp only [wellFormed.makeRoomChecked_eq, Option.bind_eq_bind,
        Option.bind_some, pushed]
      rfl

/--
A write finds a place for its identifier and for its cell within the bounds.
-/
theorem WellFormed.setIdAtCellChecked_eq
    (wellFormed : palette.WellFormed)
    {cell : Nat}
    (inside : cell < palette.size)
    (id : UInt32) :
    palette.setIdAtCellChecked cell id =
      some (palette.setIdAtCell cell id) := by
  have sized : (palette.intern id).1.indices.WellSized ∧
      (palette.intern id).1.indices.size = palette.size := by
    rw [intern]
    split
    · exact ⟨wellFormed.sized, rfl⟩
    · exact ⟨(wellFormed.makeRoom.extended id).sized,
        (size_extended _ id).trans palette.size_makeRoom⟩
  have written :
      (palette.intern id).1.indices.setChecked cell (palette.intern id).2 =
      some ((palette.intern id).1.indices.set cell (palette.intern id).2) :=
    sized.1.setChecked_eq (sized.2.symm ▸ inside) _
  simp only [setIdAtCellChecked, wellFormed.internChecked_eq,
    Option.bind_eq_bind, Option.bind_some, written]
  rfl

theorem WellFormed.setIdAtChecked_eq
    (wellFormed : palette.WellFormed)
    {x y z : Nat}
    (inside : palette.Inside (x, y, z))
    (id : UInt32) :
    palette.setIdAtChecked x y z id = some (palette.setIdAt x y z id) := by
  rw [setIdAtChecked, if_pos inside]
  exact wellFormed.setIdAtCellChecked_eq (wellFormed.cell_lt inside) id

theorem SectionCube.setIdAtChecked_eq
    (cube : palette.SectionCube)
    {x y z : Nat}
    (xLt : x < 16)
    (yLt : y < 16)
    (zLt : z < 16)
    (id : UInt32) :
    palette.setIdAtChecked x y z id = some (palette.setIdAt x y z id) :=
  cube.toWellFormed.setIdAtChecked_eq (cube.inside xLt yLt zLt) id

end Palette

end VoxelRelay
