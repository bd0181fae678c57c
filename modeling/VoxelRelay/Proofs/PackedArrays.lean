import VoxelRelay.Proofs.CheckedAccess

/-!
# Packed indices as an array

A store that was made from zeros by writing entries is an array of small
numbers, in which each write changes one entry.  It is also the only store with
these entries: every bit of a word belongs to at most one entry, and the bits
that belong to none were zero at the start and are never written.  So stores of
one width can be compared word by word, and one that is stored at another width
and then again at its own is the same as before.
-/

namespace VoxelRelay.PackedIndices

/--
A store of zeros into which entries were written, each with a value that fits
the width.
-/
inductive Written (width size : Nat) : PackedIndices → Prop where
  | zeroed : Written width size (zeroed width size)
  | set {store : PackedIndices} (written : Written width size store)
      {index : Nat} (inside : index < size) {value : UInt16}
      (fits : value.toNat < 2 ^ width) :
      Written width size (store.set index value)

/-- A bit of a word belongs to the entry at `index`. -/
def Owns (width index word bit : Nat) : Prop :=
  index / perWord width = word ∧ index % perWord width * width ≤ bit ∧
    bit < index % perWord width * width + width

/-- The bits that belong to no entry are zero. -/
def Clean (store : PackedIndices) : Prop :=
  ∀ word bit,
    (∀ index, index < store.size → ¬ Owns store.width index word bit) →
    (store.words.getD word 0).toNat.testBit bit = false

variable {width size : Nat} {store : PackedIndices}

/-! ## Bits without an entry -/

theorem clean_zeroed (width size : Nat) : (zeroed width size).Clean := by
  intro word bit _
  have zero : (zeroed width size).words.getD word 0 = 0 := by
    simp only [zeroed, Array.getD_eq_getD_getElem?, Array.getElem?_replicate]
    split <;> rfl
  rw [zero]
  exact Nat.zero_testBit bit

theorem Clean.set
    (clean : store.Clean)
    (sized : store.WellSized)
    {index : Nat}
    (inside : index < store.size)
    {value : UInt16}
    (fits : value.toNat < 2 ^ store.width) :
    (store.set index value).Clean := by
  by_cases empty : store.width = 0
  · rwa [PackedIndices.set, if_pos empty]
  · intro word bit unowned
    rw [width_set, size_set] at unowned
    rw [words_set sized empty inside]
    split
    · next here =>
        have room := shift_add_le sized.supported empty index
        have outside : ¬ (index % perWord store.width * store.width ≤ bit ∧
            bit < index % perWord store.width * store.width + store.width) :=
          fun within => unowned index inside ⟨here.symm, within⟩
        rw [testBit_overwrite sized.supported (by omega) room _ fits,
          if_neg outside]
        exact clean word bit unowned
    · exact clean word bit unowned

/-! ## Stores that were written -/

theorem Written.shape
    (supported : Supported width)
    (written : Written width size store) :
    store.WellSized ∧ store.width = width ∧ store.size = size := by
  induction written with
  | zeroed => exact ⟨wellSized_zeroed supported size, rfl, rfl⟩
  | set _ _ _ ih =>
      obtain ⟨sized, width_eq, size_eq⟩ := ih
      exact ⟨sized.set _ _, (width_set _ _ _).trans width_eq,
        (size_set _ _ _).trans size_eq⟩

theorem Written.clean
    (supported : Supported width)
    (written : Written width size store) :
    store.Clean := by
  induction written with
  | zeroed => exact clean_zeroed width size
  | set written inside fits ih =>
      obtain ⟨sized, width_eq, size_eq⟩ := written.shape supported
      exact ih.set sized (size_eq.symm ▸ inside) (width_eq.symm ▸ fits)

/-- A store that is built entry by entry was written. -/
theorem written_ofFn
    {entry : Nat → UInt16}
    (fits : ∀ index, index < size → (entry index).toNat < 2 ^ width) :
    Written width size (ofFn width size entry) := by
  have general : ∀ count, count ≤ size →
      Written width size
        (Nat.fold count (fun index _ store => store.set index (entry index))
          (zeroed width size)) := by
    intro count
    induction count with
    | zero => exact fun _ => .zeroed
    | succ count ih =>
        intro within
        rw [Nat.fold_succ]
        exact .set (ih (by omega)) within (fits count within)
  exact general size le_rfl

/-! ## Equality -/

/-- A bit of an entry is found in the word that holds it. -/
theorem testBit_of_owns
    (sized : store.WellSized)
    {index word bit : Nat}
    (owns : Owns store.width index word bit) :
    (store.words.getD word 0).toNat.testBit bit =
      (store.get index).toNat.testBit
        (bit - index % perWord store.width * store.width) := by
  obtain ⟨rfl, low, high⟩ := owns
  have stored : store.width ≠ 0 := by omega
  have room := shift_add_le sized.supported stored index
  have within : bit - index % perWord store.width * store.width <
      store.width := by omega
  rw [get_of_width_ne_zero stored, testBit_field sized.supported (by omega),
    decide_eq_true within, Bool.true_and, Nat.add_sub_cancel' low]

/-- Clean stores are known by their entries. -/
theorem eq_of_get_eq
    {left right : PackedIndices}
    (leftSized : left.WellSized)
    (rightSized : right.WellSized)
    (leftClean : left.Clean)
    (rightClean : right.Clean)
    (widths : left.width = right.width)
    (sizes : left.size = right.size)
    (entries : ∀ index, index < left.size →
      left.get index = right.get index) :
    left = right := by
  have counts : left.words.size = right.words.size := by
    rw [leftSized.words_size, rightSized.words_size, widths, sizes]
  have words (word : Nat) :
      left.words.getD word 0 = right.words.getD word 0 := by
    apply UInt64.toNat_inj.1
    apply Nat.eq_of_testBit_eq
    intro bit
    by_cases owned : ∃ index, index < left.size ∧
      Owns left.width index word bit
    · obtain ⟨index, inside, owns⟩ := owned
      rw [testBit_of_owns leftSized owns,
        testBit_of_owns rightSized (widths ▸ owns), entries index inside,
        widths]
    · have unowned : ∀ index, index < left.size →
          ¬ Owns left.width index word bit :=
        fun index inside owns => owned ⟨index, inside, owns⟩
      rw [leftClean word bit unowned,
        rightClean word bit (widths ▸ sizes ▸ unowned)]
  have wordsEq : left.words = right.words := by
    apply Array.ext counts
    intro word leftInside rightInside
    have same := words word
    rwa [Array.getD_eq_getD_getElem?, Array.getD_eq_getD_getElem?,
      Array.getElem?_eq_getElem leftInside,
      Array.getElem?_eq_getElem rightInside] at same
  cases left
  cases right
  simp_all

theorem Written.eq_iff
    (supported : Supported width)
    (written : Written width size store)
    {otherWidth otherSize : Nat}
    {other : PackedIndices}
    (otherSupported : Supported otherWidth)
    (otherWritten : Written otherWidth otherSize other) :
    store = other ↔ width = otherWidth ∧ size = otherSize ∧
      ∀ index, index < size → store.get index = other.get index := by
  obtain ⟨sized, width_eq, size_eq⟩ := written.shape supported
  obtain ⟨otherSized, otherWidth_eq, otherSize_eq⟩ :=
    otherWritten.shape otherSupported
  constructor
  · rintro rfl
    exact ⟨width_eq.symm.trans otherWidth_eq, size_eq.symm.trans otherSize_eq,
      fun _ _ => rfl⟩
  · rintro ⟨rfl, rfl, entries⟩
    exact eq_of_get_eq sized otherSized (written.clean supported)
      (otherWritten.clean otherSupported) (width_eq.trans otherWidth_eq.symm)
      (size_eq.trans otherSize_eq.symm) fun index inside =>
        entries index (size_eq ▸ inside)

/-! ## Other widths -/

/-- All entries of a store fit a width. -/
def FitsWidth (store : PackedIndices) (width : Nat) : Prop :=
  ∀ index, index < store.size → (store.get index).toNat < 2 ^ width

theorem get_withWidth
    (supported : Supported width)
    (fits : store.FitsWidth width)
    {index : Nat}
    (inside : index < store.size) :
    (store.withWidth width).get index = store.get index :=
  get_ofFn supported fits inside

theorem Written.withWidth_withWidth
    (supported : Supported width)
    (written : Written width size store)
    {target : Nat}
    (targetSupported : Supported target)
    (fits : store.FitsWidth target) :
    (store.withWidth target).withWidth width = store := by
  obtain ⟨sized, rfl, rfl⟩ := written.shape supported
  have size_eq : (store.withWidth target).size = store.size := size_ofFn _ _ _
  have back : (store.withWidth target).FitsWidth store.width := by
    intro index inside
    rw [get_withWidth targetSupported fits (size_eq ▸ inside)]
    exact toNat_get_lt sized index
  have rewritten : Written store.width store.size
      ((store.withWidth target).withWidth store.width) := by
    rw [← size_eq]
    exact written_ofFn back
  refine (rewritten.eq_iff supported supported written).2
    ⟨rfl, rfl, fun index inside => ?_⟩
  rw [get_withWidth supported back (size_eq.symm ▸ inside),
    get_withWidth targetSupported fits inside]

/-! ## The array of a store -/

/--
A store is an array of `size` numbers below `2 ^ width`, and the only one with
these entries.
-/
structure IsArray (width size : Nat) (store : PackedIndices) : Prop where
  width_eq : store.width = width
  size_eq : store.size = size
  words_size : store.words.size = wordCount width size
  get_lt : ∀ index, (store.get index).toNat < 2 ^ width
  getChecked_eq : ∀ index, index < size →
    store.getChecked index = some (store.get index)
  get_set : ∀ index value, index < size → value.toNat < 2 ^ width →
    store.setChecked index value = some (store.set index value) ∧
      ∀ other, (store.set index value).get other = if other = index then value
        else store.get other
  unowned_eq : ∀ word bit,
    (∀ index, index < size → ¬ Owns width index word bit) →
    (store.words.getD word 0).toNat.testBit bit = false
  eq_iff : ∀ otherWidth otherSize other, Supported otherWidth →
    Written otherWidth otherSize other →
    (store = other ↔ width = otherWidth ∧ size = otherSize ∧
      ∀ index, index < size → store.get index = other.get index)
  withWidth : ∀ target, Supported target → store.FitsWidth target →
    store.withWidthChecked target = some (store.withWidth target) ∧
      Written target size (store.withWidth target) ∧
      (∀ index, index < size →
        (store.withWidth target).get index = store.get index) ∧
      (store.withWidth target).withWidth width = store

/--
Whatever entries are written into a store of zeros, each with a value that fits:
it is an array in which a write changes one entry, whose bits without an entry
are zero, which equals another if their widths, sizes and entries are equal, and
which keeps its entries at every width that they fit, from which it comes back
to itself.
-/
theorem isArray_of_written
    (supported : Supported width)
    (written : Written width size store) :
    IsArray width size store := by
  obtain ⟨sized, width_eq, size_eq⟩ := written.shape supported
  have clean := written.clean supported
  have back :=
    fun target => @written.withWidth_withWidth _ _ _ supported target
  have equality := @Written.eq_iff _ _ _ supported written
  subst width_eq size_eq
  exact {
    width_eq := rfl
    size_eq := rfl
    words_size := sized.words_size
    get_lt := toNat_get_lt sized
    getChecked_eq := fun _ inside => sized.getChecked_eq inside
    get_set := fun _ value inside fits =>
      ⟨sized.setChecked_eq inside value,
        PackedIndices.get_set sized inside fits⟩
    unowned_eq := clean
    eq_iff := fun _ _ _ => equality
    withWidth := fun target targetSupported fits =>
      ⟨sized.withWidthChecked_eq targetSupported, written_ofFn fits,
        fun _ inside => get_withWidth targetSupported fits inside,
        back target targetSupported fits⟩ }

/--
Forty entries of four bits leave half of their third word without an entry.
-/
theorem isArray_of_written_fortyEntries :
    Supported 4 ∧ Written 4 40 (((zeroed 4 40).set 39 9).set 16 15) ∧
      IsArray 4 40 (((zeroed 4 40).set 39 9).set 16 15) := by
  have supported : Supported 4 := .inr (.inr (.inl rfl))
  have written : Written 4 40 (((zeroed 4 40).set 39 9).set 16 15) :=
    .set (.set .zeroed (by decide) (by decide)) (by decide) (by decide)
  exact ⟨supported, written, isArray_of_written supported written⟩

end VoxelRelay.PackedIndices
