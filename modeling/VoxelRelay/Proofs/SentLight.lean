import Mathlib.Data.List.Induction
import Mathlib.Data.Nat.Bitwise
import VoxelRelay.Light.Payload
import VoxelRelay.Proofs.PackedStorage

/-!
# What is sent tells the light

Light is sent as two sets of slots, those whose slab is present and those whose
slab is absent, and the present slabs.  A set is built by insertions, so a
question for a slot is answered by the insertions alone, however many words
they need, and the last word is never zero.  The two sets share no slot and
have all slots between them, which gives back the number of slots; the slabs
belong to the present slots in their order.  Hence the parts can be put
together again and different light is never sent alike.
-/

namespace VoxelRelay

/--
The numbers below a bound that pass a test do not depend on the bound once it
is past them.
-/
theorem filter_range_congr
    {test : Nat → Bool}
    {first second : Nat}
    (below : ∀ number, test number = true → number < first)
    (other : ∀ number, test number = true → number < second) :
    (List.range first).filter test = (List.range second).filter test := by
  have general : ∀ {low high : Nat}, low ≤ high →
      (∀ number, test number = true → number < low) →
      (List.range low).filter test = (List.range high).filter test := by
    intro low high le below
    obtain ⟨extra, rfl⟩ := Nat.exists_eq_add_of_le le
    have beyond : ((List.range extra).map (low + ·)).filter test = [] := by
      rw [List.filter_eq_nil_iff]
      intro number member passes
      obtain ⟨offset, -, rfl⟩ := List.mem_map.1 member
      have bound := below _ passes
      omega
    rw [List.range_add, List.filter_append, beyond, List.append_nil]
  rcases Nat.le_total first second with le | le
  · exact general le below
  · exact (general le other).symm

/-- A key that is paired with its own value is looked up to that value. -/
theorem lookup_zip
    {α β : Type}
    [DecidableEq α]
    {value? : α → Option β}
    {keys : List α}
    {values : List β}
    (paired : values.map some = keys.map value?)
    (key : α) :
    (keys.zip values).lookup key = if key ∈ keys then value?
      key else none := by
  induction keys generalizing values with
  | nil => simp
  | cons first rest ih =>
      cases values with
      | nil => cases paired
      | cons value values =>
          obtain ⟨here, later⟩ := List.cons.inj paired
          rw [List.zip_cons_cons, List.lookup_cons]
          by_cases found : key = first
          · subst found
            simp [here]
          · have missed : (key == first) = false := beq_false_of_ne found
            simp only [missed, List.mem_cons, found, false_or]
            exact ih later

/-! ## Sets of slots -/

namespace SlotMask

theorem contains_eq_testBit
    (mask : SlotMask)
    (slot : Nat) :
    mask.contains slot =
      (mask.words.getD (slot / 64) 0).toNat.testBit (slot % 64) := by
  have shift :=
    PackedIndices.toNat_shift (Nat.mod_lt slot (by decide : 0 < 64))
  rw [contains, Bool.eq_iff_iff, beq_iff_eq, ← UInt64.toNat_inj,
    UInt64.toNat_and, UInt64.toNat_shiftRight, shift,
    Nat.testBit_eq_decide_div_mod_eq, decide_eq_true_eq,
    Nat.shiftRight_eq_div_pow]
  show _ &&& 1 = 1 ↔ _
  rw [Nat.and_one_is_mod]

/--
An insertion adds the missing words and changes the one that has the bit of
the slot.
-/
theorem words_insert
    (mask : SlotMask)
    (slot : Nat) :
    (mask.insert slot).words =
      (mask.words ++ Array.replicate (slot / 64 + 1 - mask.words.size)
        0).modify (slot / 64)
        (· ||| (1 <<< (slot % 64).toUInt64)) :=
  rfl

theorem size_insert
    (mask : SlotMask)
    (slot : Nat) :
    (mask.insert slot).words.size = max mask.words.size (slot / 64 + 1) := by
  rw [words_insert, Array.size_modify, Array.size_append,
    Array.size_replicate]
  omega

theorem toNat_bit (slot : Nat) :
    ((1 : UInt64) <<< (slot % 64).toUInt64).toNat = 2 ^ (slot % 64) := by
  have shift :=
    PackedIndices.toNat_shift (Nat.mod_lt slot (by decide : 0 < 64))
  have small : 2 ^ (slot % 64) < 2 ^ 64 :=
    Nat.pow_lt_pow_right (by decide) (Nat.mod_lt slot (by decide))
  rw [UInt64.toNat_shiftLeft, shift]
  show 1 <<< _ % _ = _
  rw [Nat.one_shiftLeft, Nat.mod_eq_of_lt small]

/-- An insertion sets one bit of one word. -/
theorem toNat_word_insert
    (mask : SlotMask)
    (slot word : Nat) :
    ((mask.insert slot).words.getD word 0).toNat =
      if word = slot / 64 then
        (mask.words.getD word 0).toNat ||| 2 ^ (slot % 64)
      else (mask.words.getD word 0).toNat := by
  have grown :
      (mask.words ++ Array.replicate (slot / 64 + 1 - mask.words.size)
        0)[word]?.getD 0 =
      mask.words.getD word 0 := by
    rw [Array.getD_eq_getD_getElem?, Array.getElem?_append,
      Array.getElem?_replicate]
    split
    · rfl
    · next outside =>
        rw [Array.getElem?_eq_none (Nat.not_lt.1 outside)]
        split <;> rfl
  rw [words_insert, Array.getD_eq_getD_getElem?, Array.getElem?_modify]
  by_cases here : word = slot / 64
  · have inside :
        word <
          (mask.words ++ Array.replicate
            (slot / 64 + 1 - mask.words.size) 0).size := by
      rw [Array.size_append, Array.size_replicate]
      omega
    rw [Array.getElem?_eq_getElem inside, Option.getD_some] at grown
    rw [if_pos here.symm, if_pos here, Array.getElem?_eq_getElem inside,
      Option.map_some, Option.getD_some, grown, UInt64.toNat_or, toNat_bit]
  · rw [if_neg (Ne.symm here), if_neg here, grown]

theorem contains_insert
    (mask : SlotMask)
    (slot other : Nat) :
    (mask.insert slot).contains other =
      (mask.contains other || decide (other = slot)) := by
  rw [contains_eq_testBit, contains_eq_testBit, toNat_word_insert]
  have parts := Nat.div_add_mod other 64
  have slotParts := Nat.div_add_mod slot 64
  split
  · next sameWord =>
      have places : slot % 64 = other % 64 ↔ other = slot := by omega
      simp only [Nat.testBit_or, Nat.testBit_two_pow, places]
  · next apart =>
      have different : other ≠ slot :=
        fun same => apart (congrArg (· / 64) same)
      simp [different]

theorem not_contains_empty (slot : Nat) : empty.contains slot = false := by
  rw [contains_eq_testBit]
  simp [empty]

theorem lt_of_contains
    {mask : SlotMask}
    {slot : Nat}
    (member : mask.contains slot = true) :
    slot < 64 * mask.words.size := by
  by_contra outside
  have missing : mask.words.getD (slot / 64) 0 = 0 := by
    rw [Array.getD_eq_getD_getElem?, Array.getElem?_eq_none (by omega)]
    rfl
  rw [contains_eq_testBit, missing] at member
  simp at member

/-- The slots of a set, the lowest first. -/
def toList (mask : SlotMask) : List Nat :=
  (List.range (64 * mask.words.size)).filter mask.contains

/-- Whether a set has no zero word at its end. -/
def Trimmed (mask : SlotMask) : Prop := mask.words.back? ≠ some 0

/--
The last word of a set is not zero if a slot of the set has its bit there.
-/
theorem trimmed_of_contains
    {mask : SlotMask}
    {slot : Nat}
    (member : mask.contains slot = true)
    (last : slot / 64 + 1 = mask.words.size) :
    mask.Trimmed := by
  intro zero
  rw [Array.back?_eq_getElem?, ← last, Nat.add_sub_cancel] at zero
  rw [contains_eq_testBit, Array.getD_eq_getD_getElem?, zero] at member
  simp at member

/--
A set that is built by insertions has a slot with its bit in the last word.
-/
def Reaches (mask : SlotMask) : Prop :=
  0 < mask.words.size → ∃ slot, mask.contains slot = true ∧
    slot / 64 + 1 = mask.words.size

theorem Reaches.trimmed
    {mask : SlotMask}
    (reaches : mask.Reaches) :
    mask.Trimmed := by
  rcases Nat.eq_zero_or_pos mask.words.size with bare | filled
  · intro zero
    rw [Array.back?_eq_getElem?, bare, Array.getElem?_eq_none (by omega)]
      at zero
    cases zero
  · obtain ⟨slot, member, last⟩ := reaches filled
    exact trimmed_of_contains member last

theorem reaches_empty : empty.Reaches :=
  fun filled => absurd filled (Nat.lt_irrefl 0)

theorem Reaches.insert
    {mask : SlotMask}
    (reaches : mask.Reaches)
    (slot : Nat) :
    (mask.insert slot).Reaches := by
  intro _
  rw [size_insert]
  by_cases longer : mask.words.size < slot / 64 + 1
  · exact ⟨slot, by simp [contains_insert], by omega⟩
  · obtain ⟨other, member, last⟩ := reaches (by omega)
    exact ⟨other, by simp [contains_insert, member], by omega⟩

end SlotMask

/-! ## One kind of light -/

namespace SplitLight

/-- The slots that are named by either set, the lowest first. -/
def slots (parts : SplitLight) : List Nat :=
  (List.range
    (64 * max parts.present.words.size parts.absent.words.size)).filter
    fun slot =>
      parts.present.contains slot || parts.absent.contains slot

/--
The slab of a slot: the slabs belong to the present slots, one to each, in
their order.
-/
def slab? (parts : SplitLight) (slot : Nat) : Option LightSlab :=
  (parts.present.toList.zip parts.slabs.toList).lookup slot

/-- Puts the parts together again. -/
def join (parts : SplitLight) : LightData :=
  ⟨(parts.slots.map parts.slab?).toArray⟩

/--
Parts that say of each slot whether its slab is present and have the present
slabs.
-/
structure Describes
    (parts : SplitLight)
    (slabs : List (Option LightSlab)) : Prop where
  present_iff : ∀ slot, parts.present.contains slot = true ↔
    ∃ slab, slabs[slot]? = some (some slab)
  absent_iff : ∀ slot, parts.absent.contains slot = true ↔
    slabs[slot]? = some none
  present_reaches : parts.present.Reaches
  absent_reaches : parts.absent.Reaches
  slabs_eq : parts.slabs.toList = slabs.filterMap id

theorem describes_nil : Describes ⟨.empty, .empty, #[]⟩ [] where
  present_iff := by simp [SlotMask.not_contains_empty]
  absent_iff := by simp [SlotMask.not_contains_empty]
  present_reaches := SlotMask.reaches_empty
  absent_reaches := SlotMask.reaches_empty
  slabs_eq := rfl

theorem Describes.push
    {parts : SplitLight}
    {slabs : List (Option LightSlab)}
    (describes : parts.Describes slabs)
    (slab : Option LightSlab) :
    (parts.push slabs.length slab).Describes (slabs ++ [slab]) := by
  have earlier : ∀ slot, slot ≠ slabs.length →
      (slabs ++ [slab])[slot]? = slabs[slot]? := by
    intro slot apart
    rcases Nat.lt_or_gt_of_ne apart with before | after
    · exact List.getElem?_append_left before
    · rw [List.getElem?_eq_none (Nat.le_of_lt after), List.getElem?_eq_none]
      rw [List.length_append, List.length_singleton]
      exact after
  have present := describes.present_iff
  have absent := describes.absent_iff
  cases slab with
  | some slab =>
      refine ⟨fun slot => ?_, fun slot =>
        ?_, describes.present_reaches.insert _,
          describes.absent_reaches, by
            simp [SplitLight.push, describes.slabs_eq]⟩
      · by_cases last : slot = slabs.length
        · simp [SplitLight.push, SlotMask.contains_insert, last]
        · simp [SplitLight.push, SlotMask.contains_insert, earlier, last,
            present]
      · by_cases last : slot = slabs.length
        · simp [SplitLight.push, last, absent]
        · simp [SplitLight.push, earlier, last, absent]
  | none =>
      refine ⟨fun slot => ?_, fun slot => ?_, describes.present_reaches,
        describes.absent_reaches.insert _, by
          simp [SplitLight.push, describes.slabs_eq]⟩
      · by_cases last : slot = slabs.length
        · simp [SplitLight.push, last, present]
        · simp [SplitLight.push, earlier, last, present]
      · by_cases last : slot = slabs.length
        · simp [SplitLight.push, SlotMask.contains_insert, last]
        · simp [SplitLight.push, SlotMask.contains_insert, earlier, last,
            absent]

/-- A slab is pushed into the next slot. -/
def pushNext
    (state : SplitLight × Nat)
    (slab : Option LightSlab) : SplitLight × Nat :=
  (state.1.push state.2 slab, state.2 + 1)

theorem describes_foldl_pushNext (slabs : List (Option LightSlab)) :
    (slabs.foldl pushNext (⟨.empty, .empty, #[]⟩, 0)).2 = slabs.length ∧
      (slabs.foldl pushNext (⟨.empty, .empty, #[]⟩, 0)).1.Describes
        slabs := by
  induction slabs using List.reverseRecOn with
  | nil => exact ⟨rfl, describes_nil⟩
  | append_singleton slabs slab ih =>
      obtain ⟨counted, described⟩ := ih
      rw [List.foldl_append, List.foldl_cons, List.foldl_nil, pushNext,
        counted]
      exact ⟨by simp, described.push slab⟩

/-- Splitting light gives parts that describe it. -/
theorem describes_split (light : LightData) :
    light.split.Describes light.slabs.toList := by
  rw [LightData.split, ← Array.foldl_toList]
  exact (describes_foldl_pushNext light.slabs.toList).2

namespace Describes

variable
    {parts : SplitLight}
    {slabs : List (Option LightSlab)}
    (describes : parts.Describes slabs)
include describes

theorem not_present_and_absent (slot : Nat) :
    ¬ (parts.present.contains slot = true ∧
      parts.absent.contains slot = true) := by
  rintro ⟨present, absent⟩
  obtain ⟨slab, found⟩ := (describes.present_iff slot).1 present
  have missing := (describes.absent_iff slot).1 absent
  rw [found] at missing
  cases missing

theorem present_or_absent_iff (slot : Nat) :
    (parts.present.contains slot = true ∨ parts.absent.contains slot = true) ↔
      slot < slabs.length := by
  rw [describes.present_iff, describes.absent_iff]
  constructor
  · rintro (⟨slab, found⟩ | found)
      <;> exact (List.getElem?_eq_some_iff.1 found).1
  · intro inside
    rw [List.getElem?_eq_getElem inside]
    cases slabs[slot] with
    | some slab => exact Or.inl ⟨slab, rfl⟩
    | none => exact Or.inr rfl

theorem slots_eq : parts.slots = List.range slabs.length := by
  have named : ∀ slot,
    (parts.present.contains slot || parts.absent.contains slot) = true ↔
      slot < slabs.length := by
    intro slot
    rw [Bool.or_eq_true, describes.present_or_absent_iff]
  rw [slots, @filter_range_congr _ _ slabs.length, List.filter_eq_self]
  · exact fun slot member => (named slot).2 (List.mem_range.1 member)
  · intro slot member
    rcases Bool.or_eq_true_iff.1 member with present | absent
    · have bound := SlotMask.lt_of_contains present
      omega
    · have bound := SlotMask.lt_of_contains absent
      omega
  · exact fun slot member => (named slot).1 member

theorem toList_present :
    parts.present.toList =
      (List.range slabs.length).filter fun slot =>
        (slabs[slot]?.join).isSome := by
  rw [SlotMask.toList,
    @filter_range_congr _ _ slabs.length (fun _ => SlotMask.lt_of_contains)
    fun slot member =>
      (describes.present_or_absent_iff slot).1 (Or.inl member)]
  apply List.filter_congr
  intro slot _
  rw [Bool.eq_iff_iff, describes.present_iff]
  cases slabs[slot]? with
  | none => simp
  | some slab => cases slab <;> simp

/-- There is one slab for each present slot, in the order of the slots. -/
theorem map_some_slabs :
    parts.slabs.toList.map some = parts.present.toList.map fun slot =>
      slabs[slot]?.join := by
  have general : ∀ slabs : List (Option LightSlab),
      (slabs.filterMap id).map some =
        ((List.range slabs.length).filter fun slot =>
          (slabs[slot]?.join).isSome).map
            fun slot => slabs[slot]?.join := by
    intro slabs
    induction slabs with
    | nil => rfl
    | cons slab slabs ih =>
        rw [List.length_cons, List.range_succ_eq_map]
        cases slab <;> simpa [List.filter_map, Function.comp_def] using ih
  rw [describes.slabs_eq, describes.toList_present, general]

/-- The parts tell the slab of every slot. -/
theorem slab?_eq (slot : Nat) : parts.slab? slot = slabs[slot]?.join := by
  rw [slab?, lookup_zip describes.map_some_slabs, describes.toList_present]
  cases shown : slabs[slot]?.join with
  | none => simp [shown]
  | some slab =>
      have inside : slot < slabs.length := by
        by_contra outside
        rw [List.getElem?_eq_none (Nat.not_lt.1 outside)] at shown
        cases shown
      exact if_pos
        (List.mem_filter.2 ⟨List.mem_range.2 inside, by simp [shown]⟩)

/-- Putting the parts together gives back what they describe. -/
theorem join_eq : parts.join = ⟨slabs.toArray⟩ := by
  have listed : (List.range slabs.length).map parts.slab? = slabs := by
    apply List.ext_getElem (by simp)
    intro slot _ inside
    simp [describes.slab?_eq, inside]
  rw [join, describes.slots_eq, listed]

end Describes
end SplitLight

namespace LightData

theorem getElem?_slabs_toList
    (light : LightData)
    (slot : Nat) :
    light.slabs.toList[slot]?.join = light.slab? slot := by
  rw [Array.getElem?_toList, slab?]

/-- Splitting loses nothing. -/
theorem join_split (light : LightData) : light.split.join = light :=
  (SplitLight.describes_split light).join_eq

end LightData

/--
Light is split into two sets without a common slot that have all its slots
between them and no zero word at their ends, and into the slabs of the present
slots in their order.  The parts can be put together again, so light that is
sent alike is alike.
-/
theorem LightPayload.split_lossless :
    (∀ light : LightData,
      (∀ slot, ¬ (light.split.present.contains slot = true ∧
        light.split.absent.contains slot = true)) ∧
      (∀ slot, light.split.present.contains slot = true ∨
        light.split.absent.contains slot = true ↔ slot < light.size) ∧
      light.split.present.Trimmed ∧ light.split.absent.Trimmed ∧
      light.split.slabs.toList.map some =
        light.split.present.toList.map light.slab? ∧
      light.split.join = light) ∧
    Function.Injective LightPayload.ofLight := by
  constructor
  · intro light
    have describes := SplitLight.describes_split light
    refine ⟨describes.not_present_and_absent, describes.present_or_absent_iff,
      describes.present_reaches.trimmed, describes.absent_reaches.trimmed, ?_,
      light.join_split⟩
    rw [describes.map_some_slabs]
    exact List.map_congr_left fun slot _ => light.getElem?_slabs_toList slot
  · intro first second same
    obtain ⟨sky, block⟩ := LightPayload.mk.inj same
    have skies := congrArg SplitLight.join sky
    have blocks := congrArg SplitLight.join block
    rw [LightData.join_split, LightData.join_split] at skies blocks
    cases first
    cases second
    cases skies
    cases blocks
    rfl

end VoxelRelay
