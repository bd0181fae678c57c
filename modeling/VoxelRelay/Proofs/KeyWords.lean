import Mathlib.Data.List.Forall2
import Mathlib.Data.List.Induction
import Mathlib.Data.Nat.Digits.Defs
import VoxelRelay.Light.Key
import VoxelRelay.Proofs.LightEquations

/-!
# Reading back the words of a key

The words of a key carry no marks for where the part of one section ends and
that of the next begins.  Lists of words are called aligned when they are equal
as soon as they begin the same text, so that what follows them begins at the
same place.  Lists of the same length are aligned, and so is the light on a
face, which shows its own end: the number of slabs comes first, and each slab
has a mark of its presence.  From the words of a face the levels on it can be
read back.
-/

namespace VoxelRelay

/-- Lists of words that are equal as soon as they begin the same text. -/
def Aligned (left right : List UInt32) : Prop :=
  ∀ leftRest rightRest, left ++ leftRest = right ++ rightRest →
    left = right ∧ leftRest = rightRest

namespace Aligned

theorem of_length_eq
    {left right : List UInt32}
    (lengths : left.length = right.length) :
    Aligned left right :=
  fun _ _ equal => List.append_inj equal lengths

theorem cons
    {mark other : UInt32}
    {left right : List UInt32}
    (rest : mark = other → Aligned left right) :
    Aligned (mark :: left) (other :: right) := by
  intro leftRest rightRest equal
  obtain ⟨marks, tails⟩ := List.cons.inj equal
  obtain ⟨same, rests⟩ := rest marks leftRest rightRest tails
  exact ⟨by rw [marks, same], rests⟩

/-- Texts of aligned parts have the same parts. -/
theorem parts_eq
    {parts others : List (List UInt32)}
    (aligned : List.Forall₂ Aligned parts others)
    {leftRest rightRest : List UInt32}
    (equal : parts.flatten ++ leftRest = others.flatten ++ rightRest) :
    parts = others ∧ leftRest = rightRest := by
  induction aligned with
  | nil => exact ⟨rfl, equal⟩
  | cons first _ ih =>
      rw [List.flatten_cons, List.flatten_cons, List.append_assoc,
        List.append_assoc] at equal
      obtain ⟨rfl, later⟩ := first _ _ equal
      obtain ⟨rfl, rests⟩ := ih later
      exact ⟨rfl, rests⟩

theorem flatten
    {parts others : List (List UInt32)}
    (aligned : List.Forall₂ Aligned parts others) :
    Aligned parts.flatten others.flatten := by
  intro leftRest rightRest equal
  obtain ⟨same, rests⟩ := parts_eq aligned equal
  exact ⟨by rw [same], rests⟩

end Aligned

/-! ## Numbers packed into words -/

theorem toNat_shiftLeft_of_lt
    {word : UInt32}
    (bits : Nat)
    (narrow : bits < 32)
    (room : word.toNat * 2 ^ bits < 2 ^ 32) :
    (word <<< bits.toUInt32).toNat = word.toNat * 2 ^ bits := by
  have amount : bits.toUInt32.toNat % 32 = bits := by
    rw [Nat.toUInt32, UInt32.toNat_ofNat']
    omega
  rw [UInt32.toNat_shiftLeft, amount, Nat.shiftLeft_eq, Nat.mod_eq_of_lt room]

/-- Words whose bits do not overlap add up. -/
theorem toNat_or_of_lt
    {high low : UInt32}
    (multiple bits : Nat)
    (above : high.toNat = multiple * 2 ^ bits)
    (below : low.toNat < 2 ^ bits) :
    (high ||| low).toNat = multiple * 2 ^ bits + low.toNat := by
  rw [UInt32.toNat_or, above, ← Nat.shiftLeft_eq,
    Nat.shiftLeft_add_eq_or_of_lt below]

/-! ## Levels packed into words -/

/-- The word that levels are packed into, the first in the highest bits. -/
def packWord (levels : List Nat) : UInt32 :=
  levels.foldl (fun word level => (word <<< 4) ||| level.toUInt32) 0

theorem toNat_appendLevel
    {word : UInt32}
    {level : Nat}
    (room : word.toNat < 2 ^ 28)
    (small : level < 16) :
    ((word <<< 4) ||| level.toUInt32).toNat = level + 16 * word.toNat := by
  have value : level.toUInt32.toNat = level := Nat.mod_eq_of_lt (by omega)
  have shifted : (word <<< 4).toNat = word.toNat * 2 ^ 4 :=
    toNat_shiftLeft_of_lt 4 (by decide) (by omega)
  rw [toNat_or_of_lt word.toNat 4 shifted (value.trans_lt small), value]
  omega

/-- Levels are the digits of the word they are packed into. -/
theorem toNat_packWord
    {levels : List Nat}
    (few : levels.length ≤ 8)
    (small : ∀ level ∈ levels, level < 16) :
    (packWord levels).toNat = Nat.ofDigits 16 levels.reverse := by
  induction levels using List.reverseRecOn with
  | nil => rfl
  | append_singleton front last ih =>
      rw [List.length_append, List.length_singleton] at few
      have frontSmall : ∀ level ∈ front, level < 16 :=
        fun level member => small level (List.mem_append_left _ member)
      have lastSmall : last < 16 := small last (by simp)
      have before := ih (by omega) frontSmall
      have bound : Nat.ofDigits 16 front.reverse <
          16 ^ front.reverse.length :=
        Nat.ofDigits_lt_base_pow_length (by decide) fun level member =>
          frontSmall level (List.mem_reverse.1 member)
      have room : (packWord front).toNat < 2 ^ 28 := by
        rw [before]
        refine lt_of_lt_of_le bound ?_
        rw [List.length_reverse]
        exact Nat.pow_le_pow_right (by decide) (by omega : front.length ≤ 7)
      have unfolded : packWord (front ++ [last]) =
          (packWord front <<< 4) ||| last.toUInt32 :=
        List.foldl_concat _ _ _ _
      rw [unfolded, toNat_appendLevel room lastSmall, before,
        List.reverse_concat, Nat.ofDigits_cons]

theorem packLevels_append
    {block : List Nat}
    (length : block.length = 8)
    (rest : List Nat) :
    packLevels (block ++ rest) = packWord block :: packLevels rest := by
  match block, length with
  | [_, _, _, _, _, _, _, _], _ => rfl

theorem length_packLevels
    (count : Nat)
    {levels : List Nat}
    (length : levels.length = 8 * count) :
    (packLevels levels).length = count := by
  induction count generalizing levels with
  | zero =>
      rw [List.eq_nil_of_length_eq_zero length]
      rfl
  | succ count ih =>
      have block : (levels.take 8).length = 8 := by
        rw [List.length_take]
        omega
      rw [← List.take_append_drop 8 levels, packLevels_append block,
        List.length_cons]
      congr 1
      apply ih
      rw [List.length_drop]
      omega

theorem packLevels_inj
    (count : Nat)
    {left right : List Nat}
    (leftLength : left.length = 8 * count)
    (rightLength : right.length = 8 * count)
    (leftSmall : ∀ level ∈ left, level < 16)
    (rightSmall : ∀ level ∈ right, level < 16)
    (equal : packLevels left = packLevels right) :
    left = right := by
  induction count generalizing left right with
  | zero =>
      rw [List.eq_nil_of_length_eq_zero leftLength,
        List.eq_nil_of_length_eq_zero rightLength]
  | succ count ih =>
      have leftBlock : (left.take 8).length = 8 := by
        rw [List.length_take]
        omega
      have rightBlock : (right.take 8).length = 8 := by
        rw [List.length_take]
        omega
      rw [← List.take_append_drop 8 left, ← List.take_append_drop 8 right,
        packLevels_append leftBlock, packLevels_append rightBlock] at equal
      obtain ⟨words, later⟩ := List.cons.inj equal
      have leftBlockSmall : ∀ level ∈ left.take 8, level < 16 :=
        fun level member => leftSmall level (List.mem_of_mem_take member)
      have rightBlockSmall : ∀ level ∈ right.take 8, level < 16 :=
        fun level member => rightSmall level (List.mem_of_mem_take member)
      have blocks : left.take 8 = right.take 8 := by
        have digits := congrArg UInt32.toNat words
        rw [toNat_packWord (le_of_eq leftBlock) leftBlockSmall,
          toNat_packWord (le_of_eq rightBlock) rightBlockSmall] at digits
        apply List.reverse_injective
        apply Nat.ofDigits_inj_of_len_eq (by decide : 1 < 16) _ _ _ digits
        · rw [List.length_reverse, List.length_reverse, leftBlock, rightBlock]
        · exact fun level member =>
            leftBlockSmall level (List.mem_reverse.1 member)
        · exact fun level member =>
            rightBlockSmall level (List.mem_reverse.1 member)
      have drops : left.drop 8 = right.drop 8 := by
        apply ih _ _ _ _ later
        · rw [List.length_drop]
          omega
        · rw [List.length_drop]
          omega
        · exact fun level member =>
            leftSmall level (List.mem_of_mem_drop member)
        · exact fun level member =>
            rightSmall level (List.mem_of_mem_drop member)
      rw [← List.take_append_drop 8 left, blocks, drops,
        List.take_append_drop]

/-! ## The light on a face -/

theorem length_faceCells (face : Direction) :
    (faceCells face).length = 8 * 32 := by
  simp [faceCells, List.length_flatMap]

theorem mem_faceCells
    (face : Direction)
    {a y : Nat}
    (aLt : a < 16)
    (yLt : y < 16) :
    ((faceCell face a).1, y, (faceCell face a).2) ∈ faceCells face :=
  List.mem_flatMap.2
    ⟨y, List.mem_range.2 yLt, List.mem_map.2 ⟨a, List.mem_range.2 aLt, rfl⟩⟩

namespace LightSlab

/-- The level of a cell by its coordinates. -/
def atCell (slab : LightSlab) (cell : Nat × Nat × Nat) : Nat :=
  slab.get (cellIndex cell.1 cell.2.1 cell.2.2)

theorem small_faceLevels
    (slab : LightSlab)
    (face : Direction) :
    ∀ level ∈ (faceCells face).map slab.atCell, level < 16 := by
  intro level member
  obtain ⟨cell, -, rfl⟩ := List.mem_map.1 member
  exact slab.get_lt _

theorem faceWords_eq_packLevels
    (slab : LightSlab)
    (face : Direction) :
    slab.faceWords face = packLevels ((faceCells face).map slab.atCell) :=
  rfl

theorem length_faceWords
    (slab : LightSlab)
    (face : Direction) :
    (slab.faceWords face).length = 32 := by
  rw [faceWords_eq_packLevels]
  exact length_packLevels 32 (by rw [List.length_map, length_faceCells])

/-- The levels on a face can be read back from its words. -/
theorem get_eq_of_faceWords_eq
    {left right : LightSlab}
    {face : Direction}
    (words : left.faceWords face = right.faceWords face)
    {a y : Nat}
    (aLt : a < 16)
    (yLt : y < 16) :
    left.get (cellIndex (faceCell face a).1 y (faceCell face a).2) =
      right.get (cellIndex (faceCell face a).1 y (faceCell face a).2) := by
  have length : ∀ slab : LightSlab,
      ((faceCells face).map slab.atCell).length = 8 * 32 :=
    fun slab => by rw [List.length_map, length_faceCells]
  rw [faceWords_eq_packLevels, faceWords_eq_packLevels] at words
  have levels : (faceCells face).map left.atCell =
      (faceCells face).map right.atCell :=
    packLevels_inj 32 (length left) (length right)
      (left.small_faceLevels face) (right.small_faceLevels face) words
  have same : ∀ cell ∈ faceCells face, left.atCell cell = right.atCell cell :=
    List.map_inj_left.1 levels
  have here := same _ (mem_faceCells face aLt yLt)
  exact here

end LightSlab

namespace LightData

/-- A slab of a face, with the mark of its presence. -/
def slabWords (face : Direction) : Option LightSlab → List UInt32
  | none => [0]
  | some slab => 1 :: slab.faceWords face

theorem faceWords_eq
    (light : LightData)
    (face : Direction) :
    light.faceWords face =
      light.size.toUInt32 ::
        (light.slabs.toList.map (slabWords face)).flatten := by
  rw [← List.flatMap_def]
  rfl

theorem aligned_slabWords
    (face : Direction)
    (left right : Option LightSlab) :
    Aligned (slabWords face left) (slabWords face right) := by
  cases left with
  | none =>
      cases right with
      | none => exact Aligned.of_length_eq rfl
      | some _ => exact Aligned.cons fun marks => absurd marks (by decide)
  | some slab =>
      cases right with
      | none => exact Aligned.cons fun marks => absurd marks (by decide)
      | some other =>
          exact Aligned.cons fun _ => Aligned.of_length_eq (by
            rw [slab.length_faceWords, other.length_faceWords])

variable
    {left right : LightData}
    (agree : left.size.toUInt32 = right.size.toUInt32 →
      left.size = right.size)
include agree

theorem forall₂_aligned_slabWords
    (face : Direction)
    (words : left.size.toUInt32 = right.size.toUInt32) :
    List.Forall₂ Aligned (left.slabs.toList.map (slabWords face))
      (right.slabs.toList.map (slabWords face)) := by
  rw [List.forall₂_map_left_iff, List.forall₂_map_right_iff,
    List.forall₂_iff_zip]
  refine ⟨?_, fun _ => aligned_slabWords face _ _⟩
  rw [Array.length_toList, Array.length_toList]
  exact agree words

theorem aligned_faceWords (face : Direction) :
    Aligned (left.faceWords face) (right.faceWords face) := by
  rw [faceWords_eq, faceWords_eq]
  exact Aligned.cons fun words =>
    Aligned.flatten (forall₂_aligned_slabWords agree face words)

/-- The levels on a face of a column can be read back from its words. -/
theorem level_eq_of_faceWords_eq
    {face : Direction}
    (words : left.faceWords face = right.faceWords face)
    (slot : Nat)
    {a y : Nat}
    (aLt : a < 16)
    (yLt : y < 16) :
    left.level slot (cellIndex (faceCell face a).1 y (faceCell face a).2) =
      right.level slot
        (cellIndex (faceCell face a).1 y (faceCell face a).2) := by
  rw [faceWords_eq, faceWords_eq] at words
  obtain ⟨sizes, parts⟩ := List.cons.inj words
  have slabs := (Aligned.parts_eq (forall₂_aligned_slabWords agree face sizes)
    (congrArg (· ++ []) parts)).1
  have entry := congrArg (fun list => list[slot]?) slabs
  simp only [List.getElem?_map, Array.getElem?_toList] at entry
  unfold level
  cases leftEntry : left.slabs[slot]? with
  | none =>
      rw [leftEntry, Option.map_none, eq_comm, Option.map_eq_none_iff]
        at entry
      rw [entry]
  | some leftSlab =>
      rw [leftEntry, Option.map_some, eq_comm, Option.map_eq_some_iff]
        at entry
      obtain ⟨rightSlab, rightEntry, equal⟩ := entry
      rw [rightEntry]
      cases leftSlab with
      | none =>
          cases rightSlab with
          | none => rfl
          | some _ => exact absurd (List.cons.inj equal).1 (by decide)
      | some slab =>
          cases rightSlab with
          | none => exact absurd (List.cons.inj equal).1 (by decide)
          | some other =>
              exact LightSlab.get_eq_of_faceWords_eq
                (List.cons.inj equal).2.symm aLt yLt

end LightData

end VoxelRelay
