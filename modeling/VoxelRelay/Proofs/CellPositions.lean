import VoxelRelay.Proofs.BlockVisits
import VoxelRelay.Store.Basic

/-!
# Cells and their positions

A store finds the cell of a position by quotients and remainders of its
coordinates, and a converter finds the position of a cell by multiplying and
adding.  The two are inverse to each other in a world whose bottom lies between
two sections.  Sums wrap around, which does not matter: a coordinate is made up
of its quotient and its remainder all the same.
-/

namespace VoxelRelay

theorem toInt_sectionCoordinate (block : Int32) :
    (sectionCoordinate block).toInt = block.toInt / 16 := by
  have least := block.le_toInt
  have most := block.toInt_lt
  rw [sectionCoordinate, Int32.toInt_ofInt_of_le (by omega) (by omega)]

/-- A coordinate is made up of that of its section and its place in it. -/
theorem sectionCoordinate_mul_add (block : Int32) :
    sectionCoordinate block * 16 + .ofNat
      (localCoordinate block) = block := by
  have remainder :
      Int32.ofNat (localCoordinate block) = .ofInt (block.toInt % 16) := by
    rw [localCoordinate, ← Int32.ofInt_eq_ofNat,
      Int.toNat_of_nonneg (by omega)]
  have sixteen : (16 : Int32) = .ofInt 16 := rfl
  rw [remainder, sectionCoordinate, sixteen, ← Int32.ofInt_mul,
    ← Int32.ofInt_add, Int.ediv_mul_add_emod, Int32.ofInt_toInt]

/-- A coordinate between two sections is a multiple of their edge. -/
theorem sectionCoordinate_mul
    {block : Int32}
    (multiple : block.toInt % 16 = 0) :
    sectionCoordinate block * 16 = block := by
  have whole := sectionCoordinate_mul_add block
  rw [localCoordinate, multiple] at whole
  exact (Int32.add_zero _).symm.trans whole

/-- A store has the slots that are counted from the lowest section. -/
theorem Store.slot?_eq_some_iff
    {store : Store}
    {sectionY : Int32}
    {slot : Nat} :
    store.slot? sectionY = some slot ↔
      (sectionY - sectionCoordinate store.minY).toInt = slot ∧
        slot < store.sectionCount := by
  rw [Store.slot?, Option.ite_none_right_eq_some, Option.some.injEq]
  omega

/-- The slot of a section is its distance from the lowest one. -/
theorem Store.ofNat_slot
    {store : Store}
    {sectionY : Int32}
    {slot : Nat}
    (inside : store.slot? sectionY = some slot) :
    Int32.ofNat slot = sectionY - sectionCoordinate store.minY := by
  rw [← Int32.ofInt_eq_ofNat, ← (slot?_eq_some_iff.1 inside).1,
    Int32.ofInt_toInt]

/--
The cell in which a store finds a position has this position when it is
converted.
-/
theorem Store.position_inSection
    {store : Store}
    (multiple : store.minY.toInt % 16 = 0)
    {pos : BlockPos}
    {slot : Nat}
    (inside : store.slot? pos.sectionPos.y = some slot)
    {plan : VisitPlan}
    (column : plan.column.pos = pos.column)
    (base : plan.baseY = Converter.baseY store.minY slot) :
    plan.position pos.inSection.1 pos.inSection.2.1
      pos.inSection.2.2 = pos := by
  obtain ⟨x, y, z⟩ := pos
  have height :
      Converter.baseY store.minY slot + .ofNat (localCoordinate y) = y := by
    have bottom := sectionCoordinate_mul multiple
    calc
      Converter.baseY store.minY slot + .ofNat (localCoordinate y)
          =
            (sectionCoordinate store.minY +
              (sectionCoordinate y - sectionCoordinate store.minY)) *
              16 + .ofNat (localCoordinate y) := by
            rw [Converter.baseY, ofNat_slot inside, Int32.add_mul, bottom]
            rfl
      _ = y := by
            rw [Int32.add_comm (sectionCoordinate store.minY),
              Int32.sub_add_cancel, sectionCoordinate_mul_add]
  rw [VisitPlan.position, column, base]
  simp only [BlockPos.inSection, BlockPos.column, height, BlockPos.mk.injEq,
    true_and]
  exact ⟨sectionCoordinate_mul_add x, sectionCoordinate_mul_add z⟩

end VoxelRelay
