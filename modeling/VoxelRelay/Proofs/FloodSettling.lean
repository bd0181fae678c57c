import VoxelRelay.Proofs.FloodOffers

/-!
# A flood settles at the least light

When a flood starts, every cell from which light can still spread waits in the
queue.  Each step takes one cell from the queue and offers its light to its
neighbors; the cells that are raised wait in their turn, so the property is
kept.  Since the queue and the darkness of the column together shrink with
every step, the queue runs empty within the steps that `settle` runs, and then
no light can spread any more.  As no step leaves the levels that every
solution has, what is reached is the least solution above the levels at the
start.
-/

namespace VoxelRelay.Flood

open Finset

variable {properties : LightProperties} {sections : Array Palette}

/-- A cell from which light can still spread waits. -/
def SpreadsFromWaiting
    (properties : LightProperties)
    (sections : Array Palette)
    (flood : Flood) : Prop :=
  ∀ voxel other, voxel.InRange sections.size → other.InRange sections.size →
    voxel.Adjacent other → other ∉ flood.waiting.toList →
    flood.light.levelAt other - properties.cost (blockOf sections voxel) ≤
      flood.light.levelAt voxel

/-! ## Spreading from one cell -/

/-- What a cell offers: its level to each of its neighbors. -/
def spreadOffers
    (count : Nat)
    (flood : Flood)
    (voxel : Voxel) : List (Voxel × Nat) :=
  (voxel.neighbors count).map fun neighbor =>
    (neighbor, flood.light.levelAt voxel)

theorem offerable_spreadOffers
    {count : Nat}
    (flood : Flood)
    {voxel : Voxel}
    (inRange : voxel.InRange count) :
    Offerable count (spreadOffers count flood voxel) := by
  intro offered member
  obtain ⟨neighbor, isNeighbor, rfl⟩ := List.mem_map.1 member
  exact ⟨((Voxel.mem_neighbors_iff inRange).1 isNeighbor).1,
    LightData.level_lt _ _ _⟩

/-- A cell that is not bright enough to light another offers nothing. -/
theorem spreadFrom_eq
    (flood : Flood)
    (voxel : Voxel) :
    flood.spreadFrom properties sections voxel =
      if flood.light.levelAt voxel ≤ 1 then flood
      else
          flood.offerAll properties sections
            (spreadOffers sections.size flood voxel) := by
  unfold spreadFrom offerAll spreadOffers
  rw [List.foldl_map]

theorem extends_spreadFrom
    (properties : LightProperties)
    {flood : Flood}
    (fits : flood.Fits sections.size)
    {voxel : Voxel}
    (inRange : voxel.InRange sections.size) :
    Extends sections.size flood
      (flood.spreadFrom properties sections voxel) := by
  rw [spreadFrom_eq]
  split
  · exact Extends.refl fits
  · exact extends_offerAll (offerable_spreadOffers flood inRange) fits

/-- After a cell has spread its light, its neighbors have what is left of it. -/
theorem le_levelAt_spreadFrom
    {flood : Flood}
    (fits : flood.Fits sections.size)
    {voxel neighbor : Voxel}
    (inRange : voxel.InRange sections.size)
    (neighborInRange : neighbor.InRange sections.size)
    (adjacent : voxel.Adjacent neighbor) :
    flood.light.levelAt voxel - properties.cost (blockOf sections neighbor) ≤
      (flood.spreadFrom properties sections voxel).light.levelAt
        neighbor := by
  rw [spreadFrom_eq]
  split
  · next dim =>
      have positive := cost_pos properties (blockOf sections neighbor)
      omega
  · apply le_levelAt_offerAll (offerable_spreadOffers flood inRange) fits
    exact List.mem_map.2
      ⟨neighbor,
        (Voxel.mem_neighbors_iff inRange).2 ⟨neighborInRange, adjacent⟩, rfl⟩

/-- Spreading stays below every solution that the levels stay below. -/
theorem levelAt_spreadFrom_le
    {flood : Flood}
    (fits : flood.Fits sections.size)
    {voxel : Voxel}
    (inRange : voxel.InRange sections.size)
    {start levels : Voxel → Nat}
    (solution : LightSolution properties sections start levels)
    (below : ∀ other, other.InRange sections.size →
      flood.light.levelAt other ≤ levels other)
    {other : Voxel}
    (otherInRange : other.InRange sections.size) :
    (flood.spreadFrom properties sections voxel).light.levelAt other ≤
      levels other := by
  rw [spreadFrom_eq]
  split
  · exact below other otherInRange
  · apply levelAt_offerAll_le (offerable_spreadOffers flood inRange) fits
      below _ otherInRange
    intro neighbor level member
    obtain ⟨_, isNeighbor, equal⟩ := List.mem_map.1 member
    cases equal
    obtain ⟨neighborInRange, adjacent⟩ :=
      (Voxel.mem_neighbors_iff inRange).1 isNeighbor
    calc
      flood.light.levelAt voxel - properties.cost (blockOf sections neighbor)
          ≤ levels voxel - properties.cost (blockOf sections neighbor) :=
            Nat.sub_le_sub_right (below voxel inRange) _
      _ ≤ levels neighbor :=
            solution.spread_le neighbor voxel neighborInRange inRange
              adjacent.symm

/-! ## One step and a run -/

/-- What a flood has reached that started at the given levels. -/
structure Reached
    (properties : LightProperties)
    (sections : Array Palette)
    (start : LightData)
    (flood : Flood) :
    Prop
    extends Brightens sections.size start flood.light where
  fits : flood.Fits sections.size
  spreads : flood.SpreadsFromWaiting properties sections
  le_solution : ∀ levels,
    LightSolution properties sections start.levelAt levels →
    ∀ voxel, voxel.InRange sections.size →
      flood.light.levelAt voxel ≤ levels voxel

theorem Reached.start
    {flood : Flood}
    (fits : flood.Fits sections.size)
    (spreads : flood.SpreadsFromWaiting properties sections) :
    Reached properties sections flood.light flood where
  toBrightens := Brightens.refl sections.size flood.light
  fits := fits
  spreads := spreads
  le_solution :=
    fun _ solution voxel inRange => solution.start_le voxel inRange

/-- The queue without the cell that was taken from it. -/
theorem Fits.of_pop?
    {count : Nat}
    {flood : Flood}
    (fits : flood.Fits count)
    {voxel : Voxel}
    {rest : Fifo Voxel}
    (taken : flood.waiting.pop? = some (voxel, rest)) :
    voxel.InRange count ∧ (Flood.mk flood.light rest).Fits count := by
  have queue := Fifo.pop?_eq_some taken
  refine ⟨fits.waiting_inRange voxel (by simp [queue]), fits.size_eq, ?_⟩
  intro other waits
  exact fits.waiting_inRange other
    (by rw [queue]; exact List.mem_cons_of_mem _ waits)

/-- Taking a cell and spreading its light keeps all that was reached. -/
theorem Reached.step
    {start : LightData}
    {flood : Flood}
    (reached : Reached properties sections start flood)
    {voxel : Voxel}
    {rest : Fifo Voxel}
    (taken : flood.waiting.pop? = some (voxel, rest)) :
    Reached properties sections start
      (spreadFrom properties sections ⟨flood.light, rest⟩ voxel) := by
  have queue := Fifo.pop?_eq_some taken
  obtain ⟨inRange, restFits⟩ := reached.fits.of_pop? taken
  have grown := extends_spreadFrom properties restFits inRange
  refine ⟨reached.toBrightens.trans grown.toBrightens, grown.fits, ?_, ?_⟩
  · intro cell other cellInRange otherInRange adjacent still
    rw [grown.levelAt_eq_of_not_waiting otherInRange still]
    by_cases same : other = voxel
    · -- The cell that was taken has just offered its light.
      rw [same] at adjacent ⊢
      exact le_levelAt_spreadFrom restFits inRange cellInRange adjacent.symm
    · -- Any other cell did not wait before either.
      have stillBefore : other ∉ flood.waiting.toList := by
        rw [queue, List.mem_cons, not_or]
        exact ⟨same, fun waits =>
          still (grown.waiting_of_waiting other waits)⟩
      exact (reached.spreads cell other cellInRange otherInRange adjacent
        stillBefore).trans
        (grown.level_le cell cellInRange)
  · intro levels solution other otherInRange
    exact levelAt_spreadFrom_le restFits inRange solution
      (reached.le_solution levels solution) otherInRange

theorem Reached.run
    {start : LightData}
    {flood : Flood}
    (reached : Reached properties sections start flood)
    (steps : Nat) :
    Reached properties sections start
      (flood.run properties sections steps) := by
  induction steps generalizing flood with
  | zero => exact reached
  | succ steps ih =>
      unfold Flood.run
      split
      · next voxel rest taken => exact ih (reached.step taken)
      · exact reached

/-- Every step uses up some of the potential. -/
theorem potential_step_lt
    (properties : LightProperties)
    {flood : Flood}
    (fits : flood.Fits sections.size)
    {voxel : Voxel}
    {rest : Fifo Voxel}
    (taken : flood.waiting.pop? = some (voxel, rest)) :
    (spreadFrom properties sections ⟨flood.light, rest⟩ voxel).potential
      sections.size <
      flood.potential sections.size := by
  obtain ⟨inRange, restFits⟩ := fits.of_pop? taken
  have grown := extends_spreadFrom properties restFits inRange
  have shorter : flood.waiting.length = rest.length + 1 := by
    rw [← Fifo.length_toList, Fifo.pop?_eq_some taken, List.length_cons,
      Fifo.length_toList]
  calc
    (spreadFrom properties sections ⟨flood.light, rest⟩ voxel).potential
      sections.size ≤ (Flood.mk flood.light rest).potential sections.size :=
        grown.potential_le
    _ < flood.potential sections.size := by
        simp only [potential, shorter]
        omega

/-- A run of as many steps as the potential empties the queue. -/
theorem waiting_run_eq_nil
    {flood : Flood}
    (fits : flood.Fits sections.size)
    {steps : Nat}
    (enough : flood.potential sections.size ≤ steps) :
    (flood.run properties sections steps).waiting.toList = [] := by
  induction steps generalizing flood with
  | zero =>
      have empty : flood.waiting.length = 0 := by
        unfold potential at enough
        omega
      exact List.eq_nil_of_length_eq_zero
        (by rw [Fifo.length_toList, Flood.run, empty])
  | succ steps ih =>
      unfold Flood.run
      split
      · next voxel rest taken =>
          obtain ⟨inRange, restFits⟩ := fits.of_pop? taken
          have less := potential_step_lt properties fits taken
          exact ih (extends_spreadFrom properties restFits inRange).fits
            (by omega)
      · next done => exact (Fifo.pop?_eq_none_iff _).1 done

theorem potential_le_stepBound (flood : Flood) :
    flood.potential sections.size ≤ flood.stepBound sections := by
  have darkness :
      ∑ place ∈ range sections.size ×ˢ range 4096,
          (maxLevel - flood.light.level (place.1 + 1) place.2) ≤
        (range sections.size ×ˢ range 4096).card * maxLevel :=
    sum_le_card_nsmul _ _ _ fun _ _ => Nat.sub_le _ _
  rw [card_product, card_range, card_range] at darkness
  have order : sections.size * 4096 * maxLevel =
      maxLevel * 4096 * sections.size := by
    rw [Nat.mul_comm, Nat.mul_comm sections.size, ← Nat.mul_assoc]
  unfold potential stepBound
  omega

/-- What `settle` reaches, with nothing waiting any more. -/
theorem reached_settle
    {flood : Flood}
    (fits : flood.Fits sections.size)
    (spreads : flood.SpreadsFromWaiting properties sections) :
    ∃ settled : Flood, settled.light = flood.settle properties sections ∧
      settled.waiting.toList = [] ∧
        Reached properties sections flood.light settled :=
  ⟨flood.run properties sections (flood.stepBound sections), rfl,
    waiting_run_eq_nil fits (potential_le_stepBound flood),
    (Reached.start fits spreads).run _⟩

/-- Settling reaches the least light above the levels at the start. -/
theorem settle_isLeastLight
    {flood : Flood}
    (fits : flood.Fits sections.size)
    (spreads : flood.SpreadsFromWaiting properties sections) :
    IsLeastLight properties sections flood.light.levelAt
      (flood.settle properties sections).levelAt := by
  obtain ⟨settled, light_eq, empty, reached⟩ := reached_settle fits spreads
  rw [← light_eq]
  refine ⟨⟨reached.level_le, ?_⟩, reached.le_solution⟩
  intro voxel other inRange otherInRange adjacent
  exact reached.spreads voxel other inRange otherInRange adjacent
    (by simp [empty])

/-- Settling keeps the number of slabs. -/
theorem size_settle
    {flood : Flood}
    (fits : flood.Fits sections.size)
    (spreads : flood.SpreadsFromWaiting properties sections) :
    (flood.settle properties sections).size = sections.size + 2 := by
  obtain ⟨settled, light_eq, -, reached⟩ := reached_settle fits spreads
  rw [← light_eq, reached.fits.size_eq]

/-- Settling brightens what was there. -/
theorem brightens_settle
    {flood : Flood}
    (fits : flood.Fits sections.size)
    (spreads : flood.SpreadsFromWaiting properties sections) :
    Brightens sections.size flood.light
      (flood.settle properties sections) := by
  obtain ⟨settled, light_eq, -, reached⟩ := reached_settle fits spreads
  rw [← light_eq]
  exact reached.toBrightens

end VoxelRelay.Flood
