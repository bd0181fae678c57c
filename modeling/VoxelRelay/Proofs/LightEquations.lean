import VoxelRelay.Light.Flood
import VoxelRelay.Proofs.SlabLevels

/-!
# The equations of light

This file says what the light of a column is, without saying how it is
computed.  Each cell has a level at which it starts.  A cell is at least as
bright as its start, and at least as bright as what is left of the light of
each cell that shares a face with it, once the cell has taken its cost.  The
light of the column is the least assignment of levels that satisfies these
inequalities.

A cell starts at a level of its own, that of the sky above it or of its own
emission, or at what the neighboring columns send over the border, if that is
brighter.
-/

namespace VoxelRelay

namespace Voxel

/-- How many cells lie below a cell in the column. -/
def height (voxel : Voxel) : Nat := voxel.slot * 16 + voxel.y

/-- Two cells share a face. -/
def Adjacent (left right : Voxel) : Prop :=
  (left.height = right.height ∧ left.z = right.z ∧
    (left.x + 1 = right.x ∨ right.x + 1 = left.x)) ∨
  (left.x = right.x ∧ left.z = right.z ∧
    (left.height + 1 = right.height ∨ right.height + 1 = left.height)) ∨
  (left.height = right.height ∧ left.x = right.x ∧
    (left.z + 1 = right.z ∨ right.z + 1 = left.z))

theorem Adjacent.symm
    {left right : Voxel}
    (adjacent : left.Adjacent right) :
    right.Adjacent left := by
  unfold Adjacent at adjacent ⊢
  omega

theorem eq_iff {left right : Voxel} :
    left = right ↔
      left.slot = right.slot ∧ left.x = right.x ∧ left.y = right.y ∧
        left.z = right.z := by
  cases left
  cases right
  simp only [mk.injEq]

theorem below?_eq_some_iff
    {voxel other : Voxel}
    (layer : voxel.y < 16) :
    voxel.below? = some other ↔
      other.y < 16 ∧ other.x = voxel.x ∧ other.z = voxel.z ∧
        other.height + 1 = voxel.height := by
  unfold below? height
  split_ifs <;>
    simp only [Option.some.injEq, false_iff, eq_iff] <;> omega

theorem above?_eq_some_iff
    {count : Nat}
    {voxel other : Voxel}
    (inRange : voxel.InRange count) :
    voxel.above? count = some other ↔
      other.slot < count ∧ other.y < 16 ∧ other.x = voxel.x ∧
      other.z = voxel.z ∧
        voxel.height + 1 = other.height := by
  obtain ⟨slotLt, -, yLt, -⟩ := inRange
  unfold above? height
  split_ifs <;>
    simp only [Option.some.injEq, false_iff, eq_iff] <;> omega

/--
The neighbors that a cell spreads to are the cells of the column that share a
face with it.
-/
theorem mem_neighbors_iff
    {count : Nat}
    {voxel other : Voxel}
    (inRange : voxel.InRange count) :
    other ∈ voxel.neighbors count ↔
      other.InRange count ∧ voxel.Adjacent other := by
  have layer := inRange.2.2.1
  simp only [neighbors, List.mem_append, List.mem_ite_nil_right,
    List.mem_singleton, Option.mem_toList, below?_eq_some_iff layer,
    above?_eq_some_iff inRange, eq_iff]
  obtain ⟨slotLt, xLt, yLt, zLt⟩ := inRange
  unfold InRange Adjacent height
  constructor
  · rintro (((((west | east) | below) | above) | north) | south) <;> omega
  · rintro ⟨⟨otherSlotLt, otherXLt, otherYLt, otherZLt⟩,
      ⟨heights, zs, east | west⟩ | ⟨xs, zs, above | below⟩ |
      ⟨heights, xs, south | north⟩⟩
    · exact Or.inl (Or.inl (Or.inl (Or.inl (Or.inr (by omega)))))
    · exact Or.inl (Or.inl (Or.inl (Or.inl (Or.inl (by omega)))))
    · exact Or.inl (Or.inl (Or.inr (by omega)))
    · exact Or.inl (Or.inl (Or.inl (Or.inr (by omega))))
    · exact Or.inr (by omega)
    · exact Or.inl (Or.inr (by omega))

theorem index_lt
    {count : Nat}
    {voxel : Voxel}
    (inRange : voxel.InRange count) :
    voxel.index < 4096 := by
  obtain ⟨-, xLt, yLt, zLt⟩ := inRange
  unfold index cellIndex
  omega

theorem mem_ofSection_iff
    {voxel : Voxel}
    {slot : Nat} :
    voxel ∈ Voxel.ofSection slot ↔
      voxel.slot = slot ∧ voxel.x < 16 ∧ voxel.y < 16 ∧ voxel.z < 16 := by
  unfold Voxel.ofSection
  rw [List.mem_map]
  constructor
  · rintro ⟨index, member, rfl⟩
    have indexLt := List.mem_range.1 member
    refine ⟨rfl, ?_, ?_, ?_⟩ <;> simp only <;> omega
  · rintro ⟨rfl, xLt, yLt, zLt⟩
    refine ⟨voxel.index, List.mem_range.2 ?_, ?_⟩
    · unfold Voxel.index cellIndex
      omega
    · rw [Voxel.eq_iff]
      unfold Voxel.index cellIndex
      refine ⟨rfl, ?_, ?_, ?_⟩ <;> simp only <;> omega

/-- A cell is known by its slot and its number within the section. -/
theorem eq_of_index_eq
    {count : Nat}
    {left right : Voxel}
    (leftInRange : left.InRange count)
    (rightInRange : right.InRange count)
    (slots : left.slot = right.slot)
    (indices : left.index = right.index) :
    left = right := by
  obtain ⟨-, leftX, leftY, leftZ⟩ := leftInRange
  obtain ⟨-, rightX, rightY, rightZ⟩ := rightInRange
  unfold index cellIndex at indices
  rw [eq_iff]
  omega

theorem exists_index_eq
    {count slot index : Nat}
    (slotLt : slot < count)
    (inside : index < 4096) :
    ∃ voxel : Voxel, voxel.InRange count ∧ voxel.slot = slot ∧
      voxel.index = index := by
  refine ⟨⟨slot, index % 16, index / 256, index / 16 % 16⟩,
    ⟨slotLt, ?_, ?_, ?_⟩, rfl, ?_⟩
  · exact Nat.mod_lt _ (by decide)
  · exact Nat.div_lt_of_lt_mul inside
  · exact Nat.mod_lt _ (by decide)
  · unfold Voxel.index cellIndex
    simp only
    omega

end Voxel

theorem blockOf_eq
    {sections : Array Palette}
    {palette : Palette}
    {voxel : Voxel}
    (known : sections[voxel.slot]? = some palette) :
    blockOf sections voxel = palette.idAt voxel.x voxel.y voxel.z := by
  unfold blockOf
  rw [known]

/-! ## Solutions -/

/-- Levels that satisfy the inequalities of light in a column. -/
structure LightSolution
    (properties : LightProperties)
    (sections : Array Palette)
    (start levels : Voxel → Nat) : Prop where
  start_le : ∀ voxel, voxel.InRange sections.size → start voxel ≤ levels voxel
  spread_le : ∀ voxel other, voxel.InRange sections.size →
    other.InRange sections.size →
    voxel.Adjacent other →
    levels other - properties.cost (blockOf sections voxel) ≤ levels voxel

/--
Levels that are the least to satisfy the inequalities of light in a column.
-/
structure IsLeastLight
    (properties : LightProperties)
    (sections : Array Palette)
    (start levels : Voxel → Nat) : Prop where
  solution : LightSolution properties sections start levels
  le_solution : ∀ other, LightSolution properties sections start other →
    ∀ voxel, voxel.InRange sections.size → levels voxel ≤ other voxel

/--
Light is the same above two starts if each is no brighter than the light above
the other.
-/
theorem IsLeastLight.eq_of_start_le
    {properties : LightProperties}
    {sections : Array Palette}
    {start other left right : Voxel → Nat}
    (leftLeast : IsLeastLight properties sections start left)
    (rightLeast : IsLeastLight properties sections other right)
    (below : ∀ voxel, voxel.InRange sections.size → start voxel ≤ right voxel)
    (otherBelow : ∀ voxel, voxel.InRange sections.size →
      other voxel ≤ left voxel)
    (voxel : Voxel)
    (inRange : voxel.InRange sections.size) :
    left voxel = right voxel := by
  apply le_antisymm
  · exact leftLeast.le_solution right ⟨below, rightLeast.solution.spread_le⟩
      voxel inRange
  · exact rightLeast.le_solution
      left ⟨otherBelow, leftLeast.solution.spread_le⟩
      voxel inRange

/-- The light of a column is determined by its inequalities. -/
theorem IsLeastLight.unique
    {properties : LightProperties}
    {sections : Array Palette}
    {start left right : Voxel → Nat}
    (leftLeast : IsLeastLight properties sections start left)
    (rightLeast : IsLeastLight properties sections start right)
    (voxel : Voxel)
    (inRange : voxel.InRange sections.size) :
    left voxel = right voxel :=
  le_antisymm
    (leftLeast.le_solution right rightLeast.solution voxel inRange)
    (rightLeast.le_solution left leftLeast.solution voxel inRange)

/-- The least light depends on the start of the cells of the column only. -/
theorem IsLeastLight.congr_start
    {properties : LightProperties}
    {sections : Array Palette}
    {start other levels : Voxel → Nat}
    (least : IsLeastLight properties sections start levels)
    (same : ∀ voxel, voxel.InRange sections.size →
      start voxel = other voxel) :
    IsLeastLight properties sections other levels where
  solution :=
    { start_le := by
        intro voxel inRange
        rw [← same voxel inRange]
        exact least.solution.start_le voxel inRange
      spread_le := least.solution.spread_le }
  le_solution := by
    intro levels solution
    apply least.le_solution
    refine ⟨fun voxel inRange => ?_, solution.spread_le⟩
    rw [same voxel inRange]
    exact solution.start_le voxel inRange

/-! ## Light from over the border -/

/-- A cell lies on the face of the column in a direction. -/
def Voxel.OnFace (voxel : Voxel) : Direction → Prop
  | .west => voxel.x = 0
  | .east => voxel.x = 15
  | .north => voxel.z = 0
  | .south => voxel.z = 15

instance
    (voxel : Voxel)
    (direction : Direction) : Decidable (voxel.OnFace direction) := by
  cases direction <;> unfold Voxel.OnFace <;> infer_instance

/--
The cell of the neighboring column that shares a face with a cell on the
border.
-/
def Voxel.across (voxel : Voxel) : Direction → Voxel
  | .west => { voxel with x := 15 }
  | .east => { voxel with x := 0 }
  | .north => { voxel with z := 15 }
  | .south => { voxel with z := 0 }

/--
The level that the neighboring column in a direction has next to a cell.  There
is none inside the column, without a neighbor, or where the neighbor's slab is
absent.
-/
def borderLevel
    (neighbors : Sides (Option LightData))
    (voxel : Voxel)
    (direction : Direction) : Nat :=
  if voxel.OnFace direction then
    match neighbors.get direction with
    | some light => light.levelAt (voxel.across direction)
    | none => 0
  else 0

/-- Light over a border is bounded like that of the neighbor beyond. -/
theorem borderLevel_le_of_forall
    {neighbors : Sides (Option LightData)}
    {voxel : Voxel}
    {direction : Direction}
    {bound : Nat}
    (each : voxel.OnFace direction →
      ∀ light, neighbors.get direction = some light →
        light.levelAt (voxel.across direction) ≤ bound) :
    borderLevel neighbors voxel direction ≤ bound := by
  unfold borderLevel
  split
  · next onFace =>
      cases known : neighbors.get direction with
      | none => exact Nat.zero_le _
      | some light => exact each onFace light known
  · exact Nat.zero_le _

theorem LightInput.borderLevel_isolated
    (sections : Array Palette)
    (kind : ColumnLight → LightData)
    (voxel : Voxel)
    (direction : Direction) :
    borderLevel ((isolated sections).neighborLight.map (·.map kind)) voxel
      direction = 0 := by
  rw [borderLevel, Sides.map, Sides.get_ofFn, isolated, Sides.get_ofFn]
  exact ite_self 0

/-- The brightest of the level of its own and what comes in over the border. -/
def startLevel
    (properties : LightProperties)
    (sections : Array Palette)
    (neighbors : Sides (Option LightData))
    (own : Voxel → Nat)
    (voxel : Voxel) : Nat :=
  Direction.all.foldr (fun direction brightest =>
    max
      (borderLevel neighbors voxel direction -
        properties.cost (blockOf sections voxel)) brightest) (own voxel)

theorem startLevel_le_iff
    {properties : LightProperties}
    {sections : Array Palette}
    {neighbors : Sides (Option LightData)}
    {own : Voxel → Nat}
    {voxel : Voxel}
    {bound : Nat} :
    startLevel properties sections neighbors own voxel ≤ bound ↔
      own voxel ≤ bound ∧ ∀ direction,
        borderLevel neighbors voxel direction -
          properties.cost (blockOf sections voxel) ≤
          bound := by
  simp only [startLevel, Direction.all, List.foldr_cons, List.foldr_nil,
    Nat.max_le]
  constructor
  · rintro ⟨west, east, north, south, own⟩
    refine ⟨own, fun direction => ?_⟩
    cases direction <;> assumption
  · rintro ⟨own, border⟩
    exact ⟨border .west, border .east, border .north, border .south, own⟩

end VoxelRelay
