import VoxelRelay.Proofs.FloodOffers

/-!
# Light that comes in over the border

What the neighbors send is a list of offers, one for each cell on a face whose
slab the neighbor has.  Once all of them were made, each cell is at its start
level: the brightest of what it had and what is left of the light next to it
across the border.
-/

namespace VoxelRelay

/-- Counting up is going through a range. -/
theorem fold_eq_foldl_range
    {α : Type}
    (count : Nat)
    (step : α → Nat → α)
    (start : α) :
    Nat.fold count (fun index _ state => step state index) start =
      (List.range count).foldl step start := by
  induction count with
  | zero => rfl
  | succ count ih =>
      rw [Nat.fold_succ, ih, List.range_succ, List.foldl_concat]

namespace Flood

/-- The cell of a slot at a place along a face. -/
def faceVoxel (direction : Direction) (slot a y : Nat) : Voxel where
  slot := slot
  x := (faceCell direction a).1
  y := y
  z := (faceCell direction a).2

/-- What the slab of a neighbor offers to the cells of one slot. -/
def slabOffers
    (direction : Direction)
    (slot : Nat)
    (border : LightSlab) : List (Voxel × Nat) :=
  (List.range 16).flatMap fun a =>
    (List.range 16).map fun y =>
      (faceVoxel direction slot a y,
        border.get (faceVoxel direction.opposite slot a y).index)

/-- What a neighbor offers over the face in a direction. -/
def faceOffers
    (count : Nat)
    (direction : Direction)
    (neighbor : LightData) : List (Voxel × Nat) :=
  (List.range count).flatMap fun slot =>
    match neighbor.slab? (slot + 1) with
    | none => []
    | some border => slabOffers direction slot border

/-- What all neighbors offer. -/
def borderOffers
    (count : Nat)
    (neighbors : Sides (Option LightData)) : List (Voxel × Nat) :=
  Direction.all.flatMap fun direction =>
    match neighbors.get direction with
    | none => []
    | some neighbor => faceOffers count direction neighbor

theorem injectFrom_eq
    (properties : LightProperties)
    (sections : Array Palette)
    (direction : Direction)
    (neighbor : LightData)
    (flood : Flood) :
    flood.injectFrom properties sections direction neighbor =
      flood.offerAll properties sections
        (faceOffers sections.size direction neighbor) := by
  unfold injectFrom offerAll faceOffers
  rw [fold_eq_foldl_range, List.foldl_flatMap]
  congr 1
  funext before slot
  cases neighbor.slab? (slot + 1) with
  | none => rfl
  | some border =>
      simp only [slabOffers, List.foldl_flatMap, List.foldl_map,
        fold_eq_foldl_range]
      congr 1
      funext before a
      congr 1
      funext before y
      split
      · next faint =>
          exact (offer_of_le_one properties sections faint before _).symm
      · rfl

theorem inject_eq
    (properties : LightProperties)
    (sections : Array Palette)
    (neighbors : Sides (Option LightData))
    (flood : Flood) :
    flood.inject properties sections neighbors =
      flood.offerAll properties sections
        (borderOffers sections.size neighbors) := by
  unfold inject borderOffers offerAll
  rw [List.foldl_flatMap]
  congr 1
  funext before direction
  cases neighbors.get direction with
  | none => rfl
  | some neighbor =>
      exact injectFrom_eq properties sections direction neighbor before

/-! ## What is offered to a cell -/

theorem inRange_faceVoxel
    {count slot a y : Nat}
    (direction : Direction)
    (slotLt : slot < count)
    (aLt : a < 16)
    (yLt : y < 16) :
    (faceVoxel direction slot a y).InRange count := by
  unfold faceVoxel Voxel.InRange
  cases direction
  · exact ⟨slotLt, (by decide : 0 < 16), yLt, aLt⟩
  · exact ⟨slotLt, (by decide : 15 < 16), yLt, aLt⟩
  · exact ⟨slotLt, aLt, yLt, (by decide : 0 < 16)⟩
  · exact ⟨slotLt, aLt, yLt, (by decide : 15 < 16)⟩

theorem faceVoxel_across
    (direction : Direction)
    (slot a y : Nat) :
    (faceVoxel direction slot a y).across direction =
      faceVoxel direction.opposite slot a y := by
  cases direction <;> rfl

theorem onFace_faceVoxel
    (direction : Direction)
    (slot a y : Nat) :
    (faceVoxel direction slot a y).OnFace direction := by
  cases direction <;> rfl

/-- Every cell on a face is at some place along it. -/
theorem exists_faceVoxel_eq
    {count : Nat}
    {voxel : Voxel}
    (inRange : voxel.InRange count)
    {direction : Direction}
    (onFace : voxel.OnFace direction) :
    ∃ a, a < 16 ∧ voxel = faceVoxel direction voxel.slot a voxel.y := by
  obtain ⟨-, xLt, -, zLt⟩ := inRange
  cases direction with
  | west => exact ⟨voxel.z, zLt, Voxel.eq_iff.2 ⟨rfl, onFace, rfl, rfl⟩⟩
  | east => exact ⟨voxel.z, zLt, Voxel.eq_iff.2 ⟨rfl, onFace, rfl, rfl⟩⟩
  | north => exact ⟨voxel.x, xLt, Voxel.eq_iff.2 ⟨rfl, rfl, rfl, onFace⟩⟩
  | south => exact ⟨voxel.x, xLt, Voxel.eq_iff.2 ⟨rfl, rfl, rfl, onFace⟩⟩

theorem levelAt_across
    {neighbor : LightData}
    {voxel : Voxel}
    {border : LightSlab}
    (direction : Direction)
    (presence : neighbor.slab? (voxel.slot + 1) = some border) :
    neighbor.levelAt (voxel.across direction) =
      border.get (voxel.across direction).index := by
  have slots : (voxel.across direction).slot = voxel.slot := by
    cases direction <;> rfl
  unfold LightData.levelAt
  rw [slots]
  exact LightData.level_eq_of_slab? presence _

/-- The cells that a neighbor offers light to, and what it offers. -/
theorem mem_faceOffers_iff
    {count : Nat}
    {direction : Direction}
    {neighbor : LightData}
    {voxel : Voxel}
    {level : Nat} :
    (voxel, level) ∈ faceOffers count direction neighbor ↔
      voxel.InRange count ∧ voxel.OnFace direction ∧
        (neighbor.slab? (voxel.slot + 1)).isSome ∧
        level = neighbor.levelAt (voxel.across direction) := by
  constructor
  · intro member
    obtain ⟨slot, slotMember, inner⟩ := List.mem_flatMap.1 member
    cases presence : neighbor.slab? (slot + 1) with
    | none =>
        rw [presence] at inner
        cases inner
    | some border =>
        rw [presence] at inner
        obtain ⟨a, aMember, inner⟩ := List.mem_flatMap.1 inner
        obtain ⟨y, yMember, equal⟩ := List.mem_map.1 inner
        cases equal
        refine ⟨inRange_faceVoxel direction (List.mem_range.1 slotMember)
          (List.mem_range.1 aMember) (List.mem_range.1 yMember),
          onFace_faceVoxel direction slot a y,
          Option.isSome_of_eq_some presence, ?_⟩
        have sameSlot :
            neighbor.slab? ((faceVoxel direction slot a y).slot + 1) =
              some border := presence
        rw [levelAt_across direction sameSlot, faceVoxel_across]
  · rintro ⟨inRange, onFace, present, rfl⟩
    obtain ⟨a, aLt, equal⟩ := exists_faceVoxel_eq inRange onFace
    obtain ⟨border, presence⟩ := Option.isSome_iff_exists.1 present
    refine List.mem_flatMap.2 ⟨voxel.slot, List.mem_range.2 inRange.1, ?_⟩
    rw [presence]
    refine List.mem_flatMap.2 ⟨a, List.mem_range.2 aLt,
      List.mem_map.2 ⟨voxel.y, List.mem_range.2 inRange.2.2.1, ?_⟩⟩
    rw [levelAt_across direction presence, ← faceVoxel_across, ← equal]

/-- Whatever is offered over the border is the level across the border. -/
theorem borderLevel_of_mem
    {count : Nat}
    {neighbors : Sides (Option LightData)}
    {voxel : Voxel}
    {level : Nat}
    (member : (voxel, level) ∈ borderOffers count neighbors) :
    voxel.InRange count ∧ level < 16 ∧
      ∃ direction, borderLevel neighbors voxel direction = level := by
  obtain ⟨direction, -, inner⟩ := List.mem_flatMap.1 member
  cases known : neighbors.get direction with
  | none =>
      rw [known] at inner
      cases inner
  | some neighbor =>
      rw [known] at inner
      obtain ⟨inRange, onFace, -, rfl⟩ := mem_faceOffers_iff.1 inner
      refine ⟨inRange, LightData.level_lt _ _ _, direction, ?_⟩
      rw [borderLevel, if_pos onFace, known]

/-- A level across the border is offered, unless there is no light. -/
theorem mem_borderOffers
    {count : Nat}
    {neighbors : Sides (Option LightData)}
    {voxel : Voxel}
    (inRange : voxel.InRange count)
    {direction : Direction}
    (lit : borderLevel neighbors voxel direction ≠ 0) :
    (voxel, borderLevel neighbors voxel direction) ∈
      borderOffers count neighbors := by
  refine List.mem_flatMap.2 ⟨direction, Direction.mem_all direction, ?_⟩
  unfold borderLevel at lit ⊢
  split_ifs at lit ⊢ with onFace
  · cases known : neighbors.get direction with
    | none => simp [known] at lit
    | some neighbor =>
        simp only [known] at lit ⊢
        refine mem_faceOffers_iff.2 ⟨inRange, onFace, ?_, rfl⟩
        -- An absent slab has no light.
        by_contra absent
        have slots : (voxel.across direction).slot = voxel.slot := by
          cases direction <;> rfl
        apply lit
        unfold LightData.levelAt
        rw [slots]
        exact LightData.level_eq_zero_of_slab?
          (Option.not_isSome_iff_eq_none.1 absent) _
  · exact absurd rfl lit

theorem offerable_borderOffers
    (count : Nat)
    (neighbors : Sides (Option LightData)) :
    Offerable count (borderOffers count neighbors) := by
  rintro ⟨voxel, level⟩ member
  obtain ⟨inRange, small, -⟩ := borderLevel_of_mem member
  exact ⟨inRange, small⟩

variable {properties : LightProperties} {sections : Array Palette}

theorem extends_inject
    (properties : LightProperties)
    {flood : Flood}
    (fits : flood.Fits sections.size)
    (neighbors : Sides (Option LightData)) :
    Extends sections.size flood
      (flood.inject properties sections neighbors) := by
  rw [inject_eq]
  exact extends_offerAll (offerable_borderOffers _ _) fits

/-- Once the light of the neighbors came in, each cell is at its start level. -/
theorem levelAt_inject
    {flood : Flood}
    (fits : flood.Fits sections.size)
    (neighbors : Sides (Option LightData))
    {voxel : Voxel}
    (inRange : voxel.InRange sections.size) :
    (flood.inject properties sections neighbors).light.levelAt voxel =
      startLevel properties sections neighbors flood.light.levelAt voxel := by
  have own := fun cell : Voxel => startLevel_le_iff.1
    (le_refl
      (startLevel properties sections neighbors flood.light.levelAt cell))
  rw [inject_eq]
  apply le_antisymm
  · apply levelAt_offerAll_le (offerable_borderOffers _ _) fits _ _ inRange
    · exact fun cell _ => (own cell).1
    · intro cell level member
      obtain ⟨-, -, direction, rfl⟩ := borderLevel_of_mem member
      exact (own cell).2 direction
  · rw [startLevel_le_iff]
    refine ⟨(extends_offerAll (offerable_borderOffers _ _) fits).level_le
      voxel inRange, ?_⟩
    intro direction
    by_cases lit : borderLevel neighbors voxel direction = 0
    · rw [lit, Nat.zero_sub]
      exact Nat.zero_le _
    · exact le_levelAt_offerAll (offerable_borderOffers _ _) fits
        (mem_borderOffers inRange lit)

end Flood

end VoxelRelay
