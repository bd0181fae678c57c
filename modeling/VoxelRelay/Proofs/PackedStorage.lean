import Mathlib.Data.Nat.Bitwise
import VoxelRelay.PackedIndices

/-!
# Reading back packed indices

A store whose words are as many as its entries need behaves as an array of
small numbers: writing an entry that fits the width changes that entry and no
other.  The proof goes through the bits of one word.  An entry owns the bits
from its shift on, as many as the width; entries of one word own disjoint
bits, because their shifts are different multiples of the width.

`get_set` and `get_ofFn` are what the palettes use.
-/

namespace VoxelRelay.PackedIndices

/-- The widths at which entries are stored. -/
def Supported (width : Nat) : Prop :=
  width = 0 ∨ width = 2 ∨ width = 4 ∨ width = 8 ∨ width = 16

/-- A store of a supported width with exactly the words its entries need. -/
structure WellSized (store : PackedIndices) : Prop where
  supported : Supported store.width
  words_size : store.words.size = wordCount store.width store.size

theorem supported_widthFor (count : Nat) : Supported (widthFor count) := by
  unfold widthFor Supported
  split_ifs <;> simp

/-- The least width that is chosen for a table tells its entries apart. -/
theorem le_two_pow_widthFor
    {count : Nat}
    (bounded : count ≤ 2 ^ 16) :
    count ≤ 2 ^ widthFor count := by
  unfold widthFor
  split_ifs <;> omega

theorem widthFor_eq_zero_iff {count : Nat} :
    widthFor count = 0 ↔ count ≤ 1 := by
  unfold widthFor
  split_ifs <;> simp <;> omega

theorem widthFor_le_of_le
    {small large : Nat}
    (le : small ≤ large) :
    widthFor small ≤ widthFor large := by
  unfold widthFor
  split_ifs <;> omega

/-! ## The fields of one word -/

/-- The entry that a word holds from a bit on. -/
def field (width : Nat) (word : UInt64) (shift : Nat) : UInt16 :=
  ((word >>> shift.toUInt64) &&& mask width).toUInt16

/-- A word in which the entry from a bit on was replaced. -/
def overwrite
    (width : Nat)
    (word : UInt64)
    (shift : Nat)
    (value : UInt16) : UInt64 :=
  (word &&& ~~~(mask width <<< shift.toUInt64)) |||
    (value.toUInt64 <<< shift.toUInt64)

theorem toNat_mask
    {width : Nat}
    (supported : Supported width) :
    (mask width).toNat = 2 ^ width - 1 := by
  rcases supported with rfl | rfl | rfl | rfl | rfl <;> rfl

theorem toNat_shift
    {shift : Nat}
    (inside : shift < 64) :
    shift.toUInt64.toNat % 64 = shift := by
  rw [Nat.toUInt64, UInt64.toNat_ofNat']
  omega

theorem testBit_field
    {width shift : Nat}
    (supported : Supported width)
    (inside : shift < 64)
    (word : UInt64)
    (bit : Nat) :
    (field width word shift).toNat.testBit bit =
      (decide (bit < width) && word.toNat.testBit (shift + bit)) := by
  have narrow : width ≤ 16 := by
    rcases supported with rfl | rfl | rfl | rfl | rfl <;> decide
  rw [field, UInt64.toNat_toUInt16, UInt64.toNat_and, UInt64.toNat_shiftRight,
    toNat_shift inside, toNat_mask supported, Nat.testBit_mod_two_pow,
    Nat.testBit_and, Nat.testBit_shiftRight, Nat.testBit_two_pow_sub_one]
  by_cases within : bit < width
  · have low : bit < 16 := by omega
    simp [within, low]
  · simp [within]

/-- Only the bits of the entry change when it is replaced. -/
theorem testBit_overwrite
    {width shift : Nat}
    (supported : Supported width)
    (inside : shift < 64)
    (room : shift + width ≤ 64)
    (word : UInt64)
    {value : UInt16}
    (fits : value.toNat < 2 ^ width)
    (bit : Nat) :
    (overwrite width word shift value).toNat.testBit bit =
      if shift ≤ bit ∧ bit < shift + width then
        value.toNat.testBit (bit - shift)
      else word.toNat.testBit bit := by
  have maskLt : (mask width <<< shift.toUInt64).toNat < 2 ^ 64 :=
    UInt64.toNat_lt _
  have notBits :
      (~~~(mask width <<< shift.toUInt64)).toNat =
        2 ^ 64 - ((mask width <<< shift.toUInt64).toNat + 1) := by
    rw [UInt64.toNat_not, UInt64.size]
    omega
  have wordBit : 64 ≤ bit → word.toNat.testBit bit = false := fun high =>
    Nat.testBit_lt_two_pow (lt_of_lt_of_le (UInt64.toNat_lt word)
      (Nat.pow_le_pow_right (by decide) high))
  have valueBit : width ≤ bit - shift →
      value.toNat.testBit (bit - shift) = false := fun high =>
        Nat.testBit_lt_two_pow
          (lt_of_lt_of_le fits (Nat.pow_le_pow_right (by decide) high))
  rw [overwrite, UInt64.toNat_or, UInt64.toNat_and, Nat.testBit_or,
    Nat.testBit_and, notBits, Nat.testBit_two_pow_sub_succ maskLt,
    UInt64.toNat_shiftLeft, UInt64.toNat_shiftLeft, toNat_shift inside,
    toNat_mask supported, Nat.testBit_mod_two_pow, Nat.testBit_mod_two_pow,
    Nat.testBit_shiftLeft, Nat.testBit_shiftLeft, Nat.testBit_two_pow_sub_one,
    UInt16.toNat_toUInt64]
  by_cases low : bit < 64
  · by_cases above : shift ≤ bit
    · by_cases within : bit < shift + width
      · have narrow : bit - shift < width := by omega
        simp [low, above, within, narrow]
      · have wide : ¬ bit - shift < width := by omega
        simp [low, above, within, wide, valueBit (by omega)]
    · simp [low, above]
  · have outside : ¬ (shift ≤ bit ∧ bit < shift + width) := by omega
    simp [low, outside, wordBit (by omega)]

theorem field_overwrite
    {width shift : Nat}
    (supported : Supported width)
    (inside : shift < 64)
    (room : shift + width ≤ 64)
    (word : UInt64)
    {value : UInt16}
    (fits : value.toNat < 2 ^ width) :
    field width (overwrite width word shift value) shift = value := by
  apply UInt16.toNat_inj.1
  apply Nat.eq_of_testBit_eq
  intro bit
  rw [testBit_field supported inside,
    testBit_overwrite supported inside room word fits]
  by_cases within : bit < width
  · simp [within]
  · have high : value.toNat.testBit bit = false :=
      Nat.testBit_lt_two_pow (lt_of_lt_of_le fits
        (Nat.pow_le_pow_right (by decide) (Nat.not_lt.1 within)))
    simp [within, high]

/-- Entries whose bits do not overlap do not disturb each other. -/
theorem field_overwrite_apart
    {width shift other : Nat}
    (supported : Supported width)
    (inside : shift < 64)
    (room : shift + width ≤ 64)
    (otherInside : other < 64)
    (apart : shift + width ≤ other ∨ other + width ≤ shift)
    (word : UInt64)
    {value : UInt16}
    (fits : value.toNat < 2 ^ width) :
    field width (overwrite width word shift value) other =
      field width word other := by
  apply UInt16.toNat_inj.1
  apply Nat.eq_of_testBit_eq
  intro bit
  rw [testBit_field supported otherInside,
    testBit_field supported otherInside,
    testBit_overwrite supported inside room word fits]
  by_cases within : bit < width
  · have outside : ¬ (shift ≤ other + bit ∧ other + bit < shift + width) := by
      omega
    rw [if_neg outside]
  · simp [within]

/-! ## Entries and words -/

theorem perWord_pos
    {width : Nat}
    (supported : Supported width)
    (stored : width ≠ 0) :
    0 < perWord width := by
  rcases supported with rfl | rfl | rfl | rfl | rfl
  · exact absurd rfl stored
  all_goals decide

/-- A word of a supported width is made up of whole entries. -/
theorem perWord_mul
    {width : Nat}
    (supported : Supported width)
    (stored : width ≠ 0) :
    perWord width * width = 64 := by
  rcases supported with rfl | rfl | rfl | rfl | rfl
  · exact absurd rfl stored
  all_goals rfl

/-- Every entry lies within its word. -/
theorem shift_add_le
    {width : Nat}
    (supported : Supported width)
    (stored : width ≠ 0)
    (index : Nat) :
    index % perWord width * width + width ≤ 64 := by
  have below : index % perWord width + 1 ≤ perWord width :=
    Nat.mod_lt _ (perWord_pos supported stored)
  calc
    index % perWord width * width + width
        = (index % perWord width + 1) * width := by
          rw [Nat.add_mul, Nat.one_mul]
    _ ≤ perWord width * width := Nat.mul_le_mul_right _ below
    _ = 64 := perWord_mul supported stored

/-- Two entries of one word do not overlap. -/
theorem shift_apart
    {width index other : Nat}
    (sameWord : other / perWord width = index / perWord width)
    (different : other ≠ index) :
    index % perWord width * width + width ≤ other % perWord width * width ∨
      other % perWord width * width + width ≤
        index % perWord width * width := by
  have slots : other % perWord width ≠ index % perWord width := by
    intro equal
    apply different
    rw [← Nat.div_add_mod other (perWord width), sameWord, equal,
      Nat.div_add_mod]
  rcases Nat.lt_or_gt_of_ne slots with less | greater
  · have scaled := Nat.mul_le_mul_right width (Nat.succ_le_of_lt less)
    rw [Nat.succ_mul] at scaled
    exact Or.inr scaled
  · have scaled := Nat.mul_le_mul_right width (Nat.succ_le_of_lt greater)
    rw [Nat.succ_mul] at scaled
    exact Or.inl scaled

theorem wordOf_lt
    {store : PackedIndices}
    (sized : store.WellSized)
    (stored : store.width ≠ 0)
    {index : Nat}
    (inside : index < store.size) :
    store.wordOf index < store.words.size := by
  have slots := perWord_pos sized.supported stored
  rw [sized.words_size, wordCount, if_neg stored, wordOf,
    Nat.div_lt_iff_lt_mul slots]
  have rounding :=
    Nat.div_add_mod (store.size + perWord store.width - 1)
      (perWord store.width)
  have remainder := Nat.mod_lt (store.size + perWord store.width - 1) slots
  rw [Nat.mul_comm] at rounding
  omega

theorem get_of_width_ne_zero
    {store : PackedIndices}
    (stored : store.width ≠ 0)
    (index : Nat) :
    store.get index =
      field store.width (store.words.getD (index / perWord store.width) 0)
        (index % perWord store.width * store.width) := by
  rw [get, if_neg stored]
  rfl

theorem words_set
    {store : PackedIndices}
    (sized : store.WellSized)
    (stored : store.width ≠ 0)
    {index : Nat}
    (inside : index < store.size)
    (value : UInt16)
    (word : Nat) :
    (store.set index value).words.getD word 0 =
      if word = index / perWord store.width then
        overwrite store.width (store.words.getD word 0)
          (index % perWord store.width * store.width) value
      else store.words.getD word 0 := by
  have wordInside : index / perWord store.width < store.words.size :=
    wordOf_lt sized stored inside
  rw [set, if_neg stored]
  simp only [Array.getD_eq_getD_getElem?, Array.getElem?_modify, wordOf,
    shiftOf]
  by_cases same : word = index / perWord store.width
  · subst same
    simp [Array.getElem?_eq_getElem wordInside, overwrite]
  · simp [same, Ne.symm same]

/-- An entry has no bits past the width. -/
theorem toNat_get_lt
    {store : PackedIndices}
    (sized : store.WellSized)
    (index : Nat) :
    (store.get index).toNat < 2 ^ store.width := by
  by_cases empty : store.width = 0
  · simp [get, empty]
  · have room := shift_add_le sized.supported empty index
    rw [get_of_width_ne_zero empty]
    apply Nat.lt_pow_two_of_testBit
    intro bit high
    rw [testBit_field sized.supported (by omega)]
    simp [Nat.not_lt.2 high]

/-- Writing an entry that fits changes that entry and no other. -/
theorem get_set
    {store : PackedIndices}
    (sized : store.WellSized)
    {index : Nat}
    (inside : index < store.size)
    {value : UInt16}
    (fits : value.toNat < 2 ^ store.width)
    (other : Nat) :
    (store.set index value).get other = if other = index then value
      else store.get other := by
  by_cases empty : store.width = 0
  · have zero : value = 0 := by
      rw [empty] at fits
      exact UInt16.toNat_inj.1 (by simpa using fits)
    simp [set, get, empty, zero]
  · have room := shift_add_le sized.supported empty index
    have otherRoom := shift_add_le sized.supported empty other
    have supported := sized.supported
    rw [get_of_width_ne_zero (by simpa using empty), width_set,
      words_set sized empty inside, get_of_width_ne_zero empty]
    by_cases same : other = index
    · subst same
      rw [if_pos rfl, if_pos rfl]
      exact field_overwrite supported (by omega) room _ fits
    · rw [if_neg same]
      split
      · next sameWord =>
          exact field_overwrite_apart supported (by omega) room (by omega)
            (shift_apart sameWord same) _ fits
      · rfl

/-! ## Stores built entry by entry -/

theorem wellSized_zeroed
    {width : Nat}
    (supported : Supported width)
    (size : Nat) :
    (zeroed width size).WellSized :=
  ⟨supported, by simp [zeroed]⟩

theorem WellSized.set
    {store : PackedIndices}
    (sized : store.WellSized)
    (index : Nat)
    (value : UInt16) :
    (store.set index value).WellSized := by
  refine ⟨by simpa using sized.supported, ?_⟩
  rw [width_set, size_set, ← sized.words_size]
  unfold PackedIndices.set
  split
  · rfl
  · simp

theorem ofFn_shape
    {width : Nat}
    (supported : Supported width)
    (size count : Nat)
    (entry : Nat → UInt16) :
    let store :=
      Nat.fold count (fun index _ store => store.set index (entry index))
        (zeroed width size)
    store.WellSized ∧ store.width = width ∧ store.size = size := by
  induction count with
  | zero => exact ⟨wellSized_zeroed supported size, rfl, rfl⟩
  | succ count ih =>
      rw [Nat.fold_succ]
      obtain ⟨sized, widthEq, sizeEq⟩ := ih
      exact ⟨sized.set _ _, by simpa using widthEq, by simpa using sizeEq⟩

theorem wellSized_ofFn
    {width : Nat}
    (supported : Supported width)
    (size : Nat)
    (entry : Nat → UInt16) :
    (ofFn width size entry).WellSized :=
  (ofFn_shape supported size size entry).1

@[simp]
theorem width_ofFn
    (width size : Nat)
    (entry : Nat → UInt16) :
    (ofFn width size entry).width = width := by
  unfold ofFn
  generalize size = count at *
  have general : ∀ bound,
      (Nat.fold bound (fun index _ store => store.set index (entry index))
        (zeroed width count)).width = width := by
    intro bound
    induction bound with
    | zero => rfl
    | succ bound ih => rw [Nat.fold_succ, width_set, ih]
  exact general count

@[simp]
theorem size_ofFn
    (width size : Nat)
    (entry : Nat → UInt16) :
    (ofFn width size entry).size = size := by
  unfold ofFn
  have general : ∀ bound,
      (Nat.fold bound (fun index _ store => store.set index (entry index))
        (zeroed width size)).size = size := by
    intro bound
    induction bound with
    | zero => rfl
    | succ bound ih => rw [Nat.fold_succ, size_set, ih]
  exact general size

/-- A store built entry by entry reads back the entries. -/
theorem get_ofFn
    {width size : Nat}
    (supported : Supported width)
    {entry : Nat → UInt16}
    (fits : ∀ index, index < size → (entry index).toNat < 2 ^ width)
    {index : Nat}
    (inside : index < size) :
    (ofFn width size entry).get index = entry index := by
  -- Entries below the number of writes made so far are in place.
  have general : ∀ count, count ≤ size → ∀ position, position < count →
      (Nat.fold count (fun index _ store => store.set index (entry index))
        (zeroed width size)).get position = entry position := by
    intro count
    induction count with
    | zero => intro _ position impossible; omega
    | succ count ih =>
        intro bounded position below
        obtain ⟨sized, widthEq, sizeEq⟩ :=
          ofFn_shape supported size count entry
        rw [Nat.fold_succ,
          get_set sized (by omega)
            (by rw [widthEq]; exact fits count (by omega))]
        split
        · next same => rw [same]
        · next different => exact ih (by omega) position (by omega)
  exact general size le_rfl index inside

end VoxelRelay.PackedIndices
