import Mathlib.Data.Nat.Bitwise
import VoxelRelay.Light.Data

/-!
# Reading back light levels

A slab behaves as an array of 4096 levels below 16: `get_set` for writing one
level, `get_ofFn` for a slab given by all of its levels.  The same holds of
the light of a column, slot by slot; `level_setLevel` is the equation that the
flood is reasoned about with.
-/

namespace VoxelRelay

namespace LightSlab

/-! ## The two halves of a byte -/

theorem toNat_low (byte : UInt8) : (byte &&& 15).toNat = byte.toNat % 16 := by
  simpa using Nat.and_two_pow_sub_one_eq_mod byte.toNat 4

theorem toNat_high (byte : UInt8) : (byte >>> 4).toNat = byte.toNat / 16 := by
  simpa using Nat.shiftRight_eq_div_pow byte.toNat 4

theorem toNat_withLow
    (byte : UInt8)
    {level : Nat}
    (small : level < 16) :
    ((byte &&& 0xf0) ||| level.toUInt8).toNat =
      byte.toNat / 16 * 16 + level := by
  have value : level.toUInt8.toNat = level := Nat.mod_eq_of_lt (by omega)
  have masked : byte.toNat &&& 0xf0 = (byte.toNat / 16) <<< 4 := by
    have bound := byte.toNat_lt
    generalize byte.toNat = bits at bound ⊢
    revert bits
    decide +kernel
  rw [UInt8.toNat_or, UInt8.toNat_and, value]
  change byte.toNat &&& 0xf0 ||| level = _
  rw [masked, ← Nat.shiftLeft_add_eq_or_of_lt (by simpa using small),
    Nat.shiftLeft_eq]

theorem toNat_withHigh
    (byte : UInt8)
    {level : Nat}
    (small : level < 16) :
    ((byte &&& 0x0f) ||| (level.toUInt8 <<< (4 : UInt8))).toNat =
      byte.toNat % 16 + level * 16 := by
  have value : level.toUInt8.toNat = level := Nat.mod_eq_of_lt (by omega)
  have shifted : (level.toUInt8 <<< (4 : UInt8)).toNat = level <<< 4 := by
    rw [UInt8.toNat_shiftLeft, value]
    change level <<< 4 % 2 ^ 8 = _
    rw [Nat.shiftLeft_eq]
    omega
  rw [UInt8.toNat_or, shifted, toNat_low, Nat.lor_comm,
    ← Nat.shiftLeft_add_eq_or_of_lt (by omega), Nat.shiftLeft_eq]
  omega

/-! ## Slabs -/

theorem get_lt (slab : LightSlab) (index : Nat) : slab.get index < 16 := by
  unfold get
  split
  · next bound =>
      have byteLt := (slab.bytes[index / 2]).toNat_lt
      simp only
      split
      · rw [toNat_low]
        omega
      · rw [toNat_high]
        omega
  · decide

/-- Writing a level changes that level and no other. -/
theorem get_set
    (slab : LightSlab)
    {index : Nat}
    (inside : index < 4096)
    (level other : Nat) :
    (slab.set index level).get other = if other = index then level % 16
      else slab.get other := by
  have bound : index / 2 < 2048 := by omega
  have small : level % 16 < 16 := Nat.mod_lt _ (by decide)
  unfold set
  rw [dif_pos bound]
  simp only [get]
  by_cases otherBound : other / 2 < 2048
  · rw [dif_pos otherBound, dif_pos otherBound]
    by_cases sameByte : index / 2 = other / 2
    · simp only [Vector.getElem_set, sameByte, ↓reduceIte]
      by_cases even : index % 2 = 0
      · by_cases otherEven : other % 2 = 0
        · have same : other = index := by omega
          subst same
          simp only [even, ↓reduceIte, toNat_low, toNat_withLow _ small]
          omega
        · have different : other ≠ index := by omega
          have byteLt := (slab.bytes[other / 2]).toNat_lt
          simp only [even, otherEven, different, ↓reduceIte, toNat_high,
            toNat_withLow _ small]
          omega
      · by_cases otherEven : other % 2 = 0
        · have different : other ≠ index := by omega
          simp only [even, otherEven, different, ↓reduceIte, toNat_low,
            toNat_withHigh _ small]
          omega
        · have same : other = index := by omega
          subst same
          simp only [even, ↓reduceIte, toNat_high, toNat_withHigh _ small]
          omega
    · have different : other ≠ index := fun equal => sameByte (by rw [equal])
      simp only [Vector.getElem_set, sameByte, different, ↓reduceIte]
  · have different : other ≠ index := fun equal => otherBound (by rwa [equal])
    rw [dif_neg otherBound, dif_neg otherBound, if_neg different]

/-- A slab given by all of its levels reads them back, each in 4 bits. -/
theorem get_ofFn
    (level : Nat → Nat)
    {index : Nat}
    (inside : index < 4096) :
    (ofFn level).get index = level index % 16 := by
  have bound : index / 2 < 2048 := by omega
  have byte : ∀ low high : Nat, (low % 16 + high % 16 * 16).toUInt8.toNat =
      low % 16 + high % 16 * 16 := by
    intro low high
    apply Nat.mod_eq_of_lt
    omega
  unfold get ofFn
  rw [dif_pos bound]
  simp only [Vector.getElem_ofFn]
  split
  · next even =>
      have position : 2 * (index / 2) = index := by omega
      rw [toNat_low, byte, position]
      omega
  · next odd =>
      have position : 2 * (index / 2) + 1 = index := by omega
      rw [toNat_high, byte, position]
      omega

theorem get_uniform
    (level : Nat)
    {index : Nat}
    (inside : index < 4096) :
    (uniform level).get index = level % 16 := by
  have bound : index / 2 < 2048 := by omega
  have byte : (level % 16 + level % 16 * 16).toUInt8.toNat =
      level % 16 + level % 16 * 16 := by
    apply Nat.mod_eq_of_lt
    omega
  unfold get uniform
  rw [dif_pos bound]
  simp only [Vector.getElem_replicate]
  split
  · rw [toNat_low, byte]
    omega
  · rw [toNat_high, byte]
    omega

theorem get_of_outside
    (slab : LightSlab)
    {index : Nat}
    (outside : 4096 ≤ index) :
    slab.get index = 0 := by
  have past : ¬ index / 2 < 2048 := by omega
  exact dif_neg past

theorem get_dark (index : Nat) : dark.get index = 0 := by
  rcases Nat.lt_or_ge index 4096 with inside | outside
  · exact get_uniform 0 inside
  · exact dark.get_of_outside outside

/-- All levels of a uniform slab are the same. -/
theorem get_eq_of_isUniform
    {slab : LightSlab}
    (same : slab.isUniform = true)
    {left right : Nat}
    (leftInside : left < 4096)
    (rightInside : right < 4096) :
    slab.get left = slab.get right := by
  have equal : slab = uniform (slab.get 0) := of_decide_eq_true same
  rw [equal, get_uniform _ leftInside, get_uniform _ rightInside]

/-- A slab is known by its levels. -/
theorem ext_get
    {left right : LightSlab}
    (same : ∀ index, index < 4096 → left.get index = right.get index) :
    left = right := by
  have byte : ∀ (slab : LightSlab) (place : Nat) (inside : place < 2048),
      slab.get (2 * place) + slab.get (2 * place + 1) * 16 =
        slab.bytes[place].toNat := by
    intro slab place inside
    have low : 2 * place / 2 = place := by omega
    have high : (2 * place + 1) / 2 = place := by omega
    have odd : (2 * place + 1) % 2 ≠ 0 := by omega
    simp only [get, low, high, inside, ↓reduceDIte, Nat.mul_mod_right,
      ↓reduceIte, odd, toNat_low, toNat_high]
    omega
  obtain ⟨leftBytes⟩ := left
  obtain ⟨rightBytes⟩ := right
  congr 1
  apply Vector.ext
  intro place inside
  apply UInt8.toNat_inj.1
  calc
    leftBytes[place].toNat
        = get ⟨leftBytes⟩ (2 * place) +
          get ⟨leftBytes⟩ (2 * place + 1) * 16 :=
          (byte ⟨leftBytes⟩ place inside).symm
    _ = get ⟨rightBytes⟩ (2 * place) +
      get ⟨rightBytes⟩ (2 * place + 1) * 16 := by
          rw [same _ (by omega), same _ (by omega)]
    _ = rightBytes[place].toNat := byte ⟨rightBytes⟩ place inside

end LightSlab

namespace LightData

theorem level_eq_of_slab?
    {light : LightData}
    {slot : Nat}
    {slab : LightSlab}
    (present : light.slab? slot = some slab)
    (index : Nat) :
    light.level slot index = slab.get index := by
  unfold slab? at present
  unfold level
  rw [Option.join_eq_some_iff] at present
  rw [present]

theorem level_eq_zero_of_slab?
    {light : LightData}
    {slot : Nat}
    (absent : light.slab? slot = none)
    (index : Nat) :
    light.level slot index = 0 := by
  unfold slab? at absent
  unfold level
  split
  · next present => simp [present] at absent
  · rfl

/-- A slab that holds light is there. -/
theorem isSome_slab?_of_lit
    {light : LightData}
    {slot index : Nat}
    (lit : 0 < light.level slot index) :
    (light.slab? slot).isSome = true := by
  by_contra absent
  rw [level_eq_zero_of_slab? (Option.not_isSome_iff_eq_none.1 absent)] at lit
  exact lt_irrefl 0 lit

theorem level_eq_zero_of_outside
    (light : LightData)
    (slot : Nat)
    {index : Nat}
    (outside : 4096 ≤ index) :
    light.level slot index = 0 := by
  unfold level
  split
  · next slab _ => exact slab.get_of_outside outside
  · rfl

theorem level_congr
    {left right : LightData}
    {leftSlot rightSlot : Nat}
    (same : left.slab? leftSlot = right.slab? rightSlot)
    (index : Nat) :
    left.level leftSlot index = right.level rightSlot index := by
  cases presence : right.slab? rightSlot with
  | none =>
      rw [level_eq_zero_of_slab? presence,
        level_eq_zero_of_slab? (same.trans presence)]
  | some slab =>
      rw [level_eq_of_slab? presence, level_eq_of_slab? (same.trans presence)]

theorem level_lt
    (light : LightData)
    (slot index : Nat) :
    light.level slot index < 16 := by
  cases presence : light.slab? slot with
  | none => rw [level_eq_zero_of_slab? presence]; decide
  | some slab => rw [level_eq_of_slab? presence]; exact slab.get_lt index

@[simp]
theorem size_setLevel
    (light : LightData)
    (slot index level : Nat) :
    (light.setLevel slot index level).size = light.size := by
  simp [setLevel, size]

/-- Writing a level leaves the other slabs alone. -/
theorem slab?_setLevel_of_ne
    (light : LightData)
    {slot other : Nat}
    (different : other ≠ slot)
    (index level : Nat) :
    (light.setLevel slot index level).slab? other = light.slab? other := by
  simp [slab?, setLevel, Array.getElem?_modify, Ne.symm different]

/-- The written slab, which is there from then on. -/
theorem slab?_setLevel_self
    (light : LightData)
    {slot : Nat}
    (inside : slot < light.size)
    (index level : Nat) :
    (light.setLevel slot index level).slab? slot =
      some (((light.slab? slot).getD .dark).set index level) := by
  obtain ⟨content, known⟩ : ∃ content, light.slabs[slot]? = some content :=
    ⟨_, Array.getElem?_eq_getElem inside⟩
  cases content <;> simp [slab?, setLevel, Array.getElem?_modify, known]

theorem isSome_slab?_setLevel_iff
    (light : LightData)
    {slot : Nat}
    (inside : slot < light.size)
    (index level other : Nat) :
    ((light.setLevel slot index level).slab? other).isSome = true ↔
      other = slot ∨ (light.slab? other).isSome = true := by
  by_cases same : other = slot
  · subst same
    simp [light.slab?_setLevel_self inside index level]
  · simp [light.slab?_setLevel_of_ne same index level, same]

/-- Writing a level changes that level and no other. -/
theorem level_setLevel
    (light : LightData)
    {slot index : Nat}
    (slotInside : slot < light.size)
    (indexInside : index < 4096)
    (level otherSlot other : Nat) :
    (light.setLevel slot index level).level otherSlot other =
      if otherSlot = slot ∧ other = index then level % 16
      else light.level otherSlot other := by
  by_cases sameSlot : otherSlot = slot
  · subst sameSlot
    rw [level_eq_of_slab? (light.slab?_setLevel_self slotInside index level),
      LightSlab.get_set _ indexInside]
    have before : ((light.slab? otherSlot).getD .dark).get other =
        light.level otherSlot other := by
      cases presence : light.slab? otherSlot with
      | none =>
          rw [level_eq_zero_of_slab? presence]; exact LightSlab.get_dark other
      | some slab => rw [level_eq_of_slab? presence]; rfl
    rw [before]
    simp
  · have unchanged := light.slab?_setLevel_of_ne sameSlot index level
    rw [if_neg (fun both => sameSlot both.1)]
    exact level_congr unchanged other

@[simp]
theorem size_allocate
    (light : LightData)
    (slot : Nat) :
    (light.allocate slot).size = light.size := by
  simp [allocate, size]

/-- A slab that is there stays as it is. -/
theorem allocate_of_present
    {light : LightData}
    {slot : Nat}
    (present : (light.slab? slot).isSome = true) :
    light.allocate slot = light := by
  obtain ⟨slabs⟩ := light
  rw [allocate]
  congr 1
  apply Array.ext (Array.size_modify ..)
  intro other _ inside
  rw [Array.getElem_modify]
  split
  · next here =>
      subst here
      rw [slab?, Array.getElem?_eq_getElem inside, Option.join_some]
        at present
      obtain ⟨slab, known⟩ := Option.isSome_iff_exists.1 present
      rw [known]
      rfl
  · rfl

/-- Allocation changes no level. -/
@[simp]
theorem level_allocate
    (light : LightData)
    (slot other index : Nat) :
    (light.allocate slot).level other index = light.level other index := by
  rw [level, level, allocate, Array.getElem?_modify]
  by_cases here : slot = other
  · rw [if_pos here]
    rcases light.slabs[other]? with _ | _ | slab
    · rfl
    · exact LightSlab.get_dark index
    · rfl
  · rw [if_neg here]

/-- To write a level is to allocate its slab and to write the level there. -/
theorem setPresentLevel_allocate
    (light : LightData)
    (slot index level : Nat) :
    (light.allocate slot).setPresentLevel slot index level =
      light.setLevel slot index level := by
  rw [allocate, setPresentLevel, setLevel]
  congr 1
  apply Array.ext (by simp only [Array.size_modify])
  intro other _ inside
  rw [Array.size_modify] at inside
  rw [Array.getElem_modify, Array.getElem_modify, Array.getElem_modify]
  split
  · cases light.slabs[other] <;> rfl
  · rfl

/--
The light of a column is known by which slabs are there and by their levels.
-/
theorem ext_level
    {left right : LightData}
    (sizes : left.size = right.size)
    (presence : ∀ slot, slot < left.size →
      ((left.slab? slot).isSome = true ↔ (right.slab? slot).isSome = true))
    (levels : ∀ slot index, slot < left.size → index < 4096 →
      left.level slot index = right.level slot index) :
    left = right := by
  have entry :
      ∀ (light : LightData) (slot : Nat) (inside : slot < light.slabs.size),
      light.slab? slot = light.slabs[slot] := by
    intro light slot inside
    simp [slab?, inside]
  obtain ⟨leftSlabs⟩ := left
  obtain ⟨rightSlabs⟩ := right
  congr 1
  apply Array.ext sizes
  intro slot leftInside rightInside
  rw [← entry ⟨leftSlabs⟩ slot leftInside,
    ← entry ⟨rightSlabs⟩ slot rightInside]
  have present := presence slot leftInside
  cases leftSlab : (LightData.mk leftSlabs).slab? slot with
  | none =>
      rw [leftSlab] at present
      exact (Option.not_isSome_iff_eq_none.1 fun there => by
        simpa using present.2 there).symm
  | some slab =>
      rw [leftSlab] at present
      obtain ⟨other, rightSlab⟩ := Option.isSome_iff_exists.1 (present.1 rfl)
      rw [rightSlab]
      congr 1
      apply LightSlab.ext_get
      intro index inside
      have equal := levels slot index leftInside inside
      rwa [level_eq_of_slab? leftSlab, level_eq_of_slab? rightSlab] at equal

@[simp]
theorem size_empty (count : Nat) : (empty count).size = count + 2 := by
  simp [empty, size]

@[simp]
theorem slab?_empty (count slot : Nat) : (empty count).slab? slot = none := by
  by_cases inside : slot < count + 2 <;> simp [slab?, empty, inside]

@[simp]
theorem level_empty (count slot index : Nat) :
    (empty count).level slot index = 0 :=
  level_eq_zero_of_slab? (slab?_empty count slot) index

end LightData

end VoxelRelay
