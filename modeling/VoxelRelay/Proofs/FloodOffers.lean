import Mathlib.Algebra.Order.BigOperators.Group.Finset
import Mathlib.Data.Finset.Prod
import VoxelRelay.Proofs.LightEquations

/-!
# Offering light

All changes of a flood are made by offers: light of some level is offered to a
cell, and the cell is raised to what its cost leaves of it, if that is
brighter.  A cell that was raised joins the queue.  So an offer lowers no
level, forgets no waiting cell, and uses up as much of the darkness of the
column as it adds to the queue.  `Extends` collects these facts, and
`Brightens` the part of them that is about light alone; both are transitive,
and so hold of any list of offers.

Of the levels after a list of offers it is enough to know that they are at
least what every offer leaves, and that they stay below every bound that the
levels before and all offers respect.
-/

namespace VoxelRelay.Flood

open Finset

/-! ## Raising one cell -/

/-- A flood of a column of `count` sections, of whose cells some wait. -/
structure Fits (count : Nat) (flood : Flood) : Prop where
  size_eq : flood.light.size = count + 2
  waiting_inRange : ∀ voxel ∈ flood.waiting.toList, voxel.InRange count

theorem Fits.slot_lt
    {count : Nat}
    {flood : Flood}
    (fits : flood.Fits count)
    {voxel : Voxel}
    (inRange : voxel.InRange count) :
    voxel.slot + 1 < flood.light.size := by
  have slotLt := inRange.1
  have size := fits.size_eq
  omega

theorem levelAt_raise
    {count : Nat}
    {flood : Flood}
    (fits : flood.Fits count)
    {voxel other : Voxel}
    (inRange : voxel.InRange count)
    (otherInRange : other.InRange count)
    {level : Nat}
    (small : level < 16) :
    (flood.raise voxel level).light.levelAt other =
      if other = voxel then level else flood.light.levelAt other := by
  unfold raise LightData.levelAt
  rw [LightData.level_setLevel _ (fits.slot_lt inRange)
    (Voxel.index_lt inRange)]
  by_cases same : other = voxel
  · simp [same, Nat.mod_eq_of_lt small]
  · have apart :
        ¬ (other.slot + 1 = voxel.slot + 1 ∧ other.index = voxel.index) := by
      rintro ⟨slots, indices⟩
      exact same
        (Voxel.eq_of_index_eq otherInRange inRange
          (Nat.succ.inj slots) indices)
    rw [if_neg apart, if_neg same]

@[simp]
theorem waiting_raise
    (flood : Flood)
    (voxel : Voxel)
    (level : Nat) :
    (flood.raise voxel level).waiting.toList =
      flood.waiting.toList ++ [voxel] :=
  Fifo.toList_push _ _

theorem Fits.raise
    {count : Nat}
    {flood : Flood}
    (fits : flood.Fits count)
    {voxel : Voxel}
    (inRange : voxel.InRange count)
    (level : Nat) :
    (flood.raise voxel level).Fits count where
  size_eq := by
    rw [← fits.size_eq]
    exact LightData.size_setLevel _ _ _ _
  waiting_inRange := by
    intro other waits
    rw [waiting_raise, List.mem_append, List.mem_singleton] at waits
    rcases waits with before | rfl
    · exact fits.waiting_inRange other before
    · exact inRange

/-! ## Floods that grow -/

/--
The waiting cells and the darkness of the column, which bound the steps of a
flood.
-/
def potential (count : Nat) (flood : Flood) : Nat :=
  flood.waiting.length +
    ∑ place ∈ range count ×ˢ range 4096,
      (maxLevel - flood.light.level (place.1 + 1) place.2)

/-- How the light of a column of `count` sections changes by offers. -/
structure Brightens (count : Nat) (before after : LightData) : Prop where
  /-- The slabs below the bottom and above the top are not touched. -/
  outside_eq : ∀ slot, (slot = 0 ∨ count < slot) →
    after.slab? slot = before.slab? slot
  level_le : ∀ voxel, voxel.InRange count →
    before.levelAt voxel ≤ after.levelAt voxel
  present_of_present : ∀ slot, (before.slab? slot).isSome = true →
    (after.slab? slot).isSome = true
  /-- Slabs that were absent come with light. -/
  lit_of_present : ∀ slot, (after.slab? slot).isSome = true →
    (before.slab? slot).isSome = true ∨
      ∃ voxel, voxel.InRange count ∧ voxel.slot + 1 = slot ∧
        0 < after.levelAt voxel

theorem Brightens.refl
    (count : Nat)
    (light : LightData) :
    Brightens count light light where
  outside_eq := fun _ _ => rfl
  level_le := fun _ _ => le_rfl
  present_of_present := fun _ present => present
  lit_of_present := fun _ present => Or.inl present

theorem Brightens.trans
    {count : Nat}
    {before between after : LightData}
    (first : Brightens count before between)
    (second : Brightens count between after) :
    Brightens count before after where
  outside_eq := fun slot outside =>
    (second.outside_eq slot outside).trans (first.outside_eq slot outside)
  level_le := fun voxel inRange =>
    (first.level_le voxel inRange).trans (second.level_le voxel inRange)
  present_of_present := fun slot present =>
    second.present_of_present slot (first.present_of_present slot present)
  lit_of_present := by
    intro slot present
    rcases second.lit_of_present slot present with earlier | appeared
    · rcases first.lit_of_present slot earlier with
        before | ⟨voxel, inRange, place, lit⟩
      · exact Or.inl before
      · exact Or.inr
          ⟨voxel, inRange, place,
            lt_of_lt_of_le lit (second.level_le voxel inRange)⟩
    · exact Or.inr appeared

/-- How a flood of a column of `count` sections changes by offers of light. -/
structure Extends
    (count : Nat)
    (before after : Flood) :
    Prop
    extends Brightens count before.light after.light where
  fits : after.Fits count
  waiting_of_waiting :
    ∀ voxel ∈ before.waiting.toList, voxel ∈ after.waiting.toList
  waiting_of_raised : ∀ voxel, voxel.InRange count →
    before.light.levelAt voxel < after.light.levelAt voxel →
    voxel ∈ after.waiting.toList
  potential_le : after.potential count ≤ before.potential count

theorem Extends.refl
    {count : Nat}
    {flood : Flood}
    (fits : flood.Fits count) :
    Extends count flood flood where
  toBrightens := Brightens.refl count flood.light
  fits := fits
  waiting_of_waiting := fun _ waits => waits
  waiting_of_raised := fun _ _ raised => absurd raised (lt_irrefl _)
  potential_le := le_rfl

theorem Extends.trans
    {count : Nat}
    {before between after : Flood}
    (first : Extends count before between)
    (second : Extends count between after) :
    Extends count before after where
  toBrightens := first.toBrightens.trans second.toBrightens
  fits := second.fits
  waiting_of_waiting := fun voxel waits =>
    second.waiting_of_waiting voxel (first.waiting_of_waiting voxel waits)
  waiting_of_raised := by
    intro voxel inRange raised
    rcases Nat.lt_or_ge (before.light.levelAt voxel)
        (between.light.levelAt voxel) with
      early | late
    · exact second.waiting_of_waiting voxel
        (first.waiting_of_raised voxel inRange early)
    · exact second.waiting_of_raised voxel inRange
        (lt_of_le_of_lt late raised)
  potential_le := second.potential_le.trans first.potential_le

/-- A cell that did not join the queue was not raised. -/
theorem Extends.levelAt_eq_of_not_waiting
    {count : Nat}
    {before after : Flood}
    (grown : Extends count before after)
    {voxel : Voxel}
    (inRange : voxel.InRange count)
    (still : voxel ∉ after.waiting.toList) :
    after.light.levelAt voxel = before.light.levelAt voxel := by
  apply le_antisymm _ (grown.level_le voxel inRange)
  exact Nat.not_lt.1 fun raised =>
    still (grown.waiting_of_raised voxel inRange raised)

theorem potential_raise_le
    {count : Nat}
    {flood : Flood}
    (fits : flood.Fits count)
    {voxel : Voxel}
    (inRange : voxel.InRange count)
    {level : Nat}
    (brighter : flood.light.levelAt voxel < level)
    (small : level < 16) :
    (flood.raise voxel level).potential count ≤ flood.potential count := by
  have slotLt := fits.slot_lt inRange
  have indexLt := Voxel.index_lt inRange
  have written : ∀ slot index,
    (flood.raise voxel level).light.level slot index =
      if slot = voxel.slot + 1 ∧ index = voxel.index then level
      else flood.light.level slot index := by
    intro slot index
    have stored := flood.light.level_setLevel slotLt indexLt level slot index
    rwa [Nat.mod_eq_of_lt small] at stored
  have darkness :
      ∑ place ∈ range count ×ˢ range 4096,
          (maxLevel - (flood.raise voxel level).light.level (place.1 + 1)
            place.2) <
        ∑ place ∈ range count ×ˢ range 4096,
          (maxLevel - flood.light.level (place.1 + 1) place.2) := by
    have here : flood.light.level (voxel.slot + 1) voxel.index < level :=
      brighter
    apply sum_lt_sum
    · intro place _
      rw [written]
      split
      · next same =>
          rw [same.1, same.2]
          omega
      · exact le_rfl
    · refine ⟨(voxel.slot, voxel.index), ?_, ?_⟩
      · exact mem_product.2 ⟨mem_range.2 inRange.1, mem_range.2 indexLt⟩
      · rw [written, if_pos ⟨rfl, rfl⟩]
        exact Nat.sub_lt_sub_left
          (lt_of_lt_of_le here (Nat.le_of_lt_succ small)) here
  have joined : (flood.raise voxel level).waiting.length =
      flood.waiting.length + 1 := by
    rw [← Fifo.length_toList, waiting_raise, List.length_append,
      Fifo.length_toList]
    rfl
  unfold potential
  omega

theorem extends_raise
    {count : Nat}
    {flood : Flood}
    (fits : flood.Fits count)
    {voxel : Voxel}
    (inRange : voxel.InRange count)
    {level : Nat}
    (brighter : flood.light.levelAt voxel < level)
    (small : level < 16) :
    Extends count flood (flood.raise voxel level) where
  fits := fits.raise inRange level
  outside_eq := by
    intro slot outside
    apply LightData.slab?_setLevel_of_ne
    have slotLt := inRange.1
    omega
  level_le := by
    intro other otherInRange
    rw [levelAt_raise fits inRange otherInRange small]
    split
    · next same =>
        rw [same]
        exact le_of_lt brighter
    · exact le_rfl
  waiting_of_waiting := by
    intro other waits
    rw [waiting_raise]
    exact List.mem_append_left _ waits
  waiting_of_raised := by
    intro other otherInRange raised
    rw [levelAt_raise fits inRange otherInRange small] at raised
    rw [waiting_raise]
    split at raised
    · next same => simp [same]
    · exact absurd raised (lt_irrefl _)
  potential_le := potential_raise_le fits inRange brighter small
  present_of_present := by
    intro slot present
    exact (LightData.isSome_slab?_setLevel_iff _ (fits.slot_lt inRange) _ _
      _).2 (Or.inr present)
  lit_of_present := by
    intro slot present
    rcases (LightData.isSome_slab?_setLevel_iff _ (fits.slot_lt inRange) _ _
        _).1 present with
      same | before
    · refine Or.inr ⟨voxel, inRange, same.symm, ?_⟩
      rw [levelAt_raise fits inRange inRange small, if_pos rfl]
      exact Nat.zero_lt_of_lt brighter
    · exact Or.inl before

/-! ## Lists of offers -/

variable (properties : LightProperties) (sections : Array Palette)

theorem cost_pos (id : UInt32) : 0 < properties.cost id :=
  lt_of_lt_of_le Nat.zero_lt_one (Nat.le_max_left _ _)

theorem levelAt_allocate
    (light : LightData)
    (slot : Nat)
    (voxel : Voxel) :
    (light.allocate slot).levelAt voxel = light.levelAt voxel :=
  light.level_allocate slot _ _

/--
A slab is allocated for good only with light in it.  What is left of an offer
is at least one level where the slab is allocated, so it is brighter than a
slab that was not there before; and where it is not brighter, the slab was
there.
-/
theorem offer_eq
    (level : Nat)
    (flood : Flood)
    (voxel : Voxel) :
    flood.offer properties sections level voxel =
      if flood.light.levelAt voxel +
          properties.cost (blockOf sections voxel) < level then
        flood.raise voxel
          (level - properties.cost (blockOf sections voxel))
      else flood := by
  generalize costs : properties.cost (blockOf sections voxel) = cost
  simp only [offer, costs, levelAt_allocate,
    LightData.setPresentLevel_allocate]
  by_cases spent : level ≤ cost
  · rw [if_pos spent, if_neg (by omega)]
  · rw [if_neg spent]
    by_cases brighter : flood.light.levelAt voxel < level - cost
    · rw [if_pos brighter, if_pos (by omega)]
      rfl
    · -- What is left is light, so a cell that is as bright is in a slab.
      have lit : 0 < flood.light.levelAt voxel := by omega
      rw [if_neg brighter, if_neg (by omega), LightData.allocate_of_present
        (LightData.isSome_slab?_of_lit lit)]

/-- An offer raises a cell to what its cost leaves, or changes nothing. -/
theorem offer_cases
    (level : Nat)
    (flood : Flood)
    (voxel : Voxel) :
    (flood.light.levelAt voxel +
        properties.cost (blockOf sections voxel) < level ∧
      flood.offer properties sections level voxel =
        flood.raise voxel
          (level - properties.cost (blockOf sections voxel))) ∨
    (level ≤ flood.light.levelAt voxel +
        properties.cost (blockOf sections voxel) ∧
      flood.offer properties sections level voxel = flood) := by
  rw [offer_eq]
  split
  · next brighter => exact Or.inl ⟨brighter, rfl⟩
  · next enough => exact Or.inr ⟨Nat.not_lt.1 enough, rfl⟩

/-- Light of a single level is lost on the way into any cell. -/
theorem offer_of_le_one
    {level : Nat}
    (faint : level ≤ 1)
    (flood : Flood)
    (voxel : Voxel) :
    flood.offer properties sections level voxel = flood := by
  have positive := cost_pos properties (blockOf sections voxel)
  rw [offer, if_pos (faint.trans positive)]

/-- Offers a list of levels, each to its cell. -/
def offerAll (offers : List (Voxel × Nat)) (flood : Flood) : Flood :=
  offers.foldl
    (fun flood offered => flood.offer properties sections offered.2 offered.1)
    flood

/-- Offers of levels that a slab can hold, to cells of the column. -/
def Offerable (count : Nat) (offers : List (Voxel × Nat)) : Prop :=
  ∀ offered ∈ offers, offered.1.InRange count ∧ offered.2 < 16

theorem extends_offer
    {count : Nat}
    {flood : Flood}
    (fits : flood.Fits count)
    {voxel : Voxel}
    (inRange : voxel.InRange count)
    {level : Nat}
    (small : level < 16) :
    Extends count flood (flood.offer properties sections level voxel) := by
  rcases offer_cases properties sections level flood voxel with
    ⟨brighter, raised⟩ | ⟨-, same⟩
  · rw [raised]
    exact extends_raise fits inRange (by omega) (by omega)
  · rw [same]
    exact Extends.refl fits

variable {properties sections}

theorem extends_offerAll
    {count : Nat}
    {offers : List (Voxel × Nat)}
    (offerable : Offerable count offers)
    {flood : Flood}
    (fits : flood.Fits count) :
    Extends count flood (flood.offerAll properties sections offers) := by
  induction offers generalizing flood with
  | nil => exact Extends.refl fits
  | cons offered rest ih =>
      obtain ⟨inRange, small⟩ := offerable offered List.mem_cons_self
      have first := extends_offer properties sections fits inRange small
      exact first.trans
        (ih
          (fun later member =>
            offerable later (List.mem_cons_of_mem _ member)) first.fits)

/-- What an offer leaves is reached at its cell. -/
theorem le_levelAt_offer
    {count : Nat}
    {flood : Flood}
    (fits : flood.Fits count)
    {voxel : Voxel}
    (inRange : voxel.InRange count)
    {level : Nat}
    (small : level < 16) :
    level - properties.cost (blockOf sections voxel) ≤
      (flood.offer properties sections level voxel).light.levelAt voxel := by
  rcases offer_cases properties sections level flood voxel with
    ⟨-, raised⟩ | ⟨enough, same⟩
  · rw [raised, levelAt_raise fits inRange inRange (by omega), if_pos rfl]
  · rw [same]
    omega

theorem le_levelAt_offerAll
    {count : Nat}
    {offers : List (Voxel × Nat)}
    (offerable : Offerable count offers)
    {flood : Flood}
    (fits : flood.Fits count)
    {voxel : Voxel}
    {level : Nat}
    (member : (voxel, level) ∈ offers) :
    level - properties.cost (blockOf sections voxel) ≤
      (flood.offerAll properties sections offers).light.levelAt voxel := by
  induction offers generalizing flood with
  | nil => cases member
  | cons offered rest ih =>
      obtain ⟨inRange, small⟩ := offerable offered List.mem_cons_self
      have restOfferable : Offerable count rest :=
        fun later laterMember =>
          offerable later (List.mem_cons_of_mem _ laterMember)
      have first := extends_offer properties sections fits inRange small
      rcases List.mem_cons.1 member with rfl | later
      · calc
          level - properties.cost (blockOf sections voxel)
              ≤ (flood.offer properties sections level voxel).light.levelAt
              voxel := le_levelAt_offer fits inRange small
          _ ≤ _ :=
            (extends_offerAll restOfferable first.fits).level_le voxel inRange
      · exact ih restOfferable first.fits later

/-- A bound that the levels and all offers respect is respected afterwards. -/
theorem levelAt_offerAll_le
    {count : Nat}
    {offers : List (Voxel × Nat)}
    (offerable : Offerable count offers)
    {flood : Flood}
    (fits : flood.Fits count)
    {bound : Voxel → Nat}
    (bounded : ∀ voxel, voxel.InRange count →
      flood.light.levelAt voxel ≤ bound voxel)
    (offersBounded : ∀ voxel level, (voxel, level) ∈ offers →
      level - properties.cost (blockOf sections voxel) ≤ bound voxel)
    {voxel : Voxel}
    (inRange : voxel.InRange count) :
    (flood.offerAll properties sections offers).light.levelAt voxel ≤
      bound voxel := by
  induction offers generalizing flood with
  | nil => exact bounded voxel inRange
  | cons offered rest ih =>
      obtain ⟨offeredInRange, small⟩ := offerable offered List.mem_cons_self
      have first :=
        extends_offer properties sections fits offeredInRange small
      apply ih
        (fun later member => offerable later (List.mem_cons_of_mem _ member))
        first.fits
      · intro other otherInRange
        rcases offer_cases properties sections offered.2 flood offered.1 with
          ⟨-, raised⟩ | ⟨-, same⟩
        · rw [raised,
            levelAt_raise fits offeredInRange otherInRange (by omega)]
          split
          · next equal =>
              rw [equal]
              exact offersBounded _ _ List.mem_cons_self
          · exact bounded other otherInRange
        · rw [same]
          exact bounded other otherInRange
      · intro other level member
        exact offersBounded other level (List.mem_cons_of_mem _ member)

end VoxelRelay.Flood
