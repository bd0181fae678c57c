import Mathlib.Logic.Relation
import VoxelRelay.Proofs.CheckedLight
import VoxelRelay.Proofs.KeyWords

/-!
# The loop that spreads light

A flood can be run without a bound on its steps, by a loop that takes waiting
cells until none is left.  Here a cell waits as one word, which stands for it as
long as the column has at most `2 ^ 20` sections; each step of the loop offers
light to one cell; and every access is made within its bounds.

An offer changes nothing, or it raises a cell by at least one level towards 15
and lets its word join the queue.  So no more words join than the column lacks
levels of light.  The loop ends: while neighbors are left, the next offer is
made, and each word that is taken leaves the queue or the darkness smaller than
they were.  What the loop comes to is what `settle` computes.
-/

namespace VoxelRelay

open Finset

/-! ## Cells as words -/

namespace Voxel

/--
A cell as one word: its slot in the high bits, its number in the low twelve.
-/
def word (voxel : Voxel) : UInt32 :=
  (voxel.slot.toUInt32 <<< 12) ||| (voxel.y.toUInt32 <<< 8) |||
    (voxel.z.toUInt32 <<< 4) |||
    voxel.x.toUInt32

/-- The cell that a word stands for. -/
def ofWord (word : UInt32) : Voxel where
  slot := (word >>> 12).toNat
  x := (word &&& 0xf).toNat
  y := ((word >>> 8) &&& 0xf).toNat
  z := ((word >>> 4) &&& 0xf).toNat

theorem toNat_word
    {count : Nat}
    (few : count ≤ 2 ^ 20)
    {voxel : Voxel}
    (inRange : voxel.InRange count) :
    voxel.word.toNat = voxel.slot * 4096 + voxel.index := by
  obtain ⟨slotLt, xLt, yLt, zLt⟩ := inRange
  have read {number : Nat} (small : number < 2 ^ 32) :
      number.toUInt32.toNat = number :=
    Nat.mod_eq_of_lt small
  have shifted {number : Nat} (bits : Nat) (narrow : bits < 32)
    (small : number < 2 ^ 32) (room : number * 2 ^ bits < 2 ^ 32) :
      (number.toUInt32 <<< bits.toUInt32).toNat = number * 2 ^ bits := by
    rw [toNat_shiftLeft_of_lt bits narrow (by rwa [read small]), read small]
  have slot : (voxel.slot.toUInt32 <<< 12).toNat = voxel.slot * 2 ^ 12 :=
    shifted 12 (by decide) (by omega) (by omega)
  have y : (voxel.y.toUInt32 <<< 8).toNat = voxel.y * 2 ^ 8 :=
    shifted 8 (by decide) (by omega) (by omega)
  have z : (voxel.z.toUInt32 <<< 4).toNat = voxel.z * 2 ^ 4 :=
    shifted 4 (by decide) (by omega) (by omega)
  have x : voxel.x.toUInt32.toNat = voxel.x := read (by omega)
  have layer := toNat_or_of_lt voxel.slot 12 slot (y.trans_lt (by omega))
  have row :=
    toNat_or_of_lt (voxel.slot * 16 + voxel.y) 8 (layer.trans (by omega))
      (z.trans_lt (by omega))
  have cell := toNat_or_of_lt ((voxel.slot * 16 + voxel.y) * 16 + voxel.z) 4
    (row.trans (by omega)) (x.trans_lt (by omega))
  rw [word, cell, x, index, cellIndex]
  omega

theorem ofWord_word
    {count : Nat}
    (few : count ≤ 2 ^ 20)
    {voxel : Voxel}
    (inRange : voxel.InRange count) :
    ofWord voxel.word = voxel := by
  have value := toNat_word few inRange
  obtain ⟨-, xLt, yLt, zLt⟩ := inRange
  rw [index, cellIndex] at value
  have low (word : UInt32) : (word &&& 0xf).toNat = word.toNat % 16 := by
    simpa using Nat.and_two_pow_sub_one_eq_mod word.toNat 4
  have right (word : UInt32) :
      (word >>> 4).toNat = word.toNat / 16 ∧
      (word >>> 8).toNat = word.toNat / 256 ∧
        (word >>> 12).toNat = word.toNat / 4096 := by
    simp [Nat.shiftRight_eq_div_pow]
  obtain ⟨four, eight, twelve⟩ := right voxel.word
  rw [eq_iff]
  simp only [ofWord, low, four, eight, twelve, value]
  omega

end Voxel

/-! ## Queues of words -/

namespace Fifo

variable {α β : Type}

/-- The queue of what the entries stand for. -/
def map (change : α → β) (queue : Fifo α) : Fifo β :=
  ⟨queue.front.map change, queue.back.map change⟩

@[simp]
theorem toList_map
    (change : α → β)
    (queue : Fifo α) :
    (queue.map change).toList = queue.toList.map change := by
  simp [map, toList]

theorem map_push
    (change : α → β)
    (queue : Fifo α)
    (entry : α) :
    (queue.push entry).map change = (queue.map change).push (change entry) :=
      rfl

theorem pop?_map
    (change : α → β)
    (queue : Fifo α) :
    (queue.map change).pop? =
      queue.pop?.map fun taken => (change taken.1, taken.2.map change) := by
  obtain ⟨front, back⟩ := queue
  cases front with
  | cons entry rest => rfl
  | nil =>
      simp only [map, pop?, List.map_nil, ← List.map_reverse]
      cases back.reverse <;> rfl

/-- A queue is read back from what stands for its entries. -/
theorem map_map_of_read
    {stored : α → β}
    {read : β → α}
    {queue : Fifo α}
    (reads : ∀ entry ∈ queue.toList, read (stored entry) = entry) :
    (queue.map stored).map read = queue := by
  have each (entries : List α)
    (listed : ∀ entry ∈ entries, entry ∈ queue.toList) :
      (entries.map stored).map read = entries := by
    rw [List.map_map]
    exact (List.map_congr_left fun entry member =>
      reads entry (listed entry member)).trans
        (List.map_id entries)
  have front := each queue.front fun _ => List.mem_append_left _
  have back := each queue.back fun _ member =>
    List.mem_append_right _ (List.mem_reverse.2 member)
  simp only [map, front, back]

end Fifo

/-! ## The loop -/

/-- The loop that spreads light, in the middle of its work. -/
structure SpreadLoop where
  light : LightData
  /-- The cells that wait, each as a word. -/
  waiting : Fifo UInt32
  /-- The level that is offered at present. -/
  level : Nat
  /-- The cells to which it has still to be offered. -/
  ahead : List Voxel
  /--
  The words that joined the queue since the start; the loop does not read
  them.
  -/
  joined : List UInt32

namespace SpreadLoop

/-- The loop at its start, with the waiting cells of a flood. -/
def ofFlood (flood : Flood) : SpreadLoop where
  light := flood.light
  waiting := flood.waiting.map Voxel.word
  level := 0
  ahead := []
  joined := []

/-- Lets a cell join the queue in whose favor the light was changed. -/
def raise
    (loop : SpreadLoop)
    (light : LightData)
    (voxel : Voxel)
    (ahead : List Voxel) : SpreadLoop :=
  { loop with
    light := light
    waiting := loop.waiting.push voxel.word
    ahead := ahead
    joined := loop.joined ++ [voxel.word] }

/--
Offers light to a cell, if the accesses that it takes are within their bounds.
A cell that any light is left for gets its slab before the levels are compared.
-/
def offer?
    (properties : LightProperties)
    (sections : Array Palette)
    (loop : SpreadLoop)
    (voxel : Voxel)
    (ahead : List Voxel) : Option SpreadLoop := do
  let cost := properties.cost (← blockOfChecked sections voxel)
  if loop.level ≤ cost then return { loop with ahead := ahead }
  else
    let left := loop.level - cost
    let light ← loop.light.allocateChecked (voxel.slot + 1)
    if (← light.levelAtChecked voxel) < left then
      return loop.raise (← light.setPresentLevelAtChecked voxel left)
        voxel ahead
    else return { loop with light := light, ahead := ahead }

/--
Takes the next word from the queue, if there is one and its cell lies within
the bounds.
-/
def take?
    (sections : Array Palette)
    (loop : SpreadLoop) : Option SpreadLoop := do
  let (word, rest) ← loop.waiting.pop?
  let voxel := Voxel.ofWord word
  let level ← loop.light.levelAtChecked voxel
  return { loop with
    waiting := rest
    level := level
    ahead := if level ≤ 1 then [] else voxel.neighbors sections.size }

/-- One step of the loop, if there is one to make. -/
def step?
    (properties : LightProperties)
    (sections : Array Palette)
    (loop : SpreadLoop) : Option SpreadLoop :=
  match loop.ahead with
  | voxel :: ahead => loop.offer? properties sections voxel ahead
  | [] => loop.take? sections

/-- No cell waits and none has still to be offered light. -/
def Idle (loop : SpreadLoop) : Prop :=
  loop.ahead = [] ∧ loop.waiting.toList = []

/-- One state of the loop leads to another by steps. -/
def Leads
    (properties : LightProperties)
    (sections : Array Palette) : SpreadLoop → SpreadLoop → Prop :=
  Relation.ReflTransGen fun before after =>
    before.step? properties sections = some after

/-- The flood whose waiting cells the words of the queue stand for. -/
def flood (loop : SpreadLoop) : Flood :=
  ⟨loop.light, loop.waiting.map Voxel.ofWord⟩

/-- The flood once the present level was offered to all cells. -/
def offered
    (properties : LightProperties)
    (sections : Array Palette)
    (loop : SpreadLoop) : Flood :=
  loop.ahead.foldl (Flood.offer properties sections loop.level) loop.flood

end SpreadLoop

/-- How many levels the cells of a column lack of the brightest light. -/
def LightData.darkness (light : LightData) (count : Nat) : Nat :=
  ∑ place ∈ range count ×ˢ range 4096,
    (maxLevel - light.level (place.1 + 1) place.2)

namespace Flood

theorem potential_eq
    (count : Nat)
    (flood : Flood) :
    flood.potential count =
      flood.waiting.length + flood.light.darkness count := rfl

/-- Raising a cell lessens the darkness. -/
theorem darkness_raise_lt
    {count : Nat}
    {flood : Flood}
    (fits : flood.Fits count)
    {voxel : Voxel}
    (inRange : voxel.InRange count)
    {level : Nat}
    (brighter : flood.light.levelAt voxel < level)
    (small : level < 16) :
    (flood.raise voxel level).light.darkness count <
      flood.light.darkness count := by
  have bounded := potential_raise_le fits inRange brighter small
  have joined : (flood.raise voxel level).waiting.length =
      flood.waiting.length + 1 := by
    rw [← Fifo.length_toList, waiting_raise, List.length_append,
      Fifo.length_toList]
    rfl
  rw [potential_eq, potential_eq, joined] at bounded
  omega

/-- Raising a cell lowers no level. -/
theorem level_le_raise
    {count : Nat}
    {flood : Flood}
    (fits : flood.Fits count)
    {voxel : Voxel}
    (inRange : voxel.InRange count)
    {level : Nat}
    (brighter : flood.light.levelAt voxel < level)
    (small : level < 16)
    (slot index : Nat) :
    flood.light.level slot index ≤
      (flood.raise voxel level).light.level slot index := by
  have stored :=
    flood.light.level_setLevel (fits.slot_lt inRange) (Voxel.index_lt inRange)
      level slot index
  rw [Nat.mod_eq_of_lt small] at stored
  rw [raise, stored]
  split
  · next here =>
      rw [here.1, here.2]
      exact le_of_lt brighter
  · exact le_rfl

variable
    {properties : LightProperties}
    {sections : Array Palette}
    {flood : Flood}

theorem run_of_idle
    (idle : flood.waiting.toList = [])
    (steps : Nat) :
    flood.run properties sections steps = flood := by
  cases steps with
  | zero => rfl
  | succ steps => rw [run, (Fifo.pop?_eq_none_iff _).2 idle]

theorem run_add (first second : Nat) :
    flood.run properties sections (first + second) =
      (flood.run properties sections first).run properties
        sections second := by
  induction first generalizing flood with
  | zero => rw [Nat.zero_add, run]
  | succ first ih =>
      rw [Nat.succ_add, run, run]
      cases taken : flood.waiting.pop? with
      | none =>
          exact (run_of_idle ((Fifo.pop?_eq_none_iff _).1 taken) second).symm
      | some next => exact ih

/--
However many steps empty the queue, the light is then that of the settled
flood.
-/
theorem light_run_of_idle
    (fits : flood.Fits sections.size)
    {steps : Nat}
    (idle : (flood.run properties sections steps).waiting.toList = []) :
    (flood.run properties sections steps).light =
      flood.settle properties sections := by
  have settled :=
    @waiting_run_eq_nil properties _ _ fits _ (potential_le_stepBound flood)
  rw [settle]
  rcases Nat.le_total steps (flood.stepBound sections) with few | many
  · rw [← Nat.add_sub_cancel' few, run_add, run_of_idle idle]
  · rw [← Nat.add_sub_cancel' many, run_add, run_of_idle settled]

end Flood

namespace SpreadLoop

/-! ## What every step keeps -/

/-- What is so of the loop as long as it runs that started at a flood. -/
structure Follows
    (properties : LightProperties)
    (sections : Array Palette)
    (start : Flood)
    (loop : SpreadLoop) : Prop where
  fits : loop.flood.Fits sections.size
  ahead_inRange : ∀ voxel ∈ loop.ahead, voxel.InRange sections.size
  level_lt : loop.level < 16
  joined_inRange :
    ∀ word ∈ loop.joined, (Voxel.ofWord word).InRange sections.size
  joined_le : loop.joined.length + loop.light.darkness sections.size ≤
    start.light.darkness sections.size
  /-- The loop does what a run of the flood does. -/
  run_eq : ∃ steps,
    loop.offered properties sections = start.run properties sections steps

/-- How one step changes the loop. -/
structure Advances (count : Nat) (before after : SpreadLoop) : Prop where
  level_le : ∀ slot index,
    before.light.level slot index ≤ after.light.level slot index
  potential_le : after.flood.potential count ≤ before.flood.potential count

variable
    {properties : LightProperties}
    {sections : Array Palette}
    {start : Flood}
    {loop : SpreadLoop}

/-- Taking a word is taking the cell that it stands for. -/
theorem Follows.take
    (follows : Follows properties sections start loop)
    (done : loop.ahead = [])
    (waits : loop.waiting.toList ≠ []) :
    ∃ next, loop.step? properties sections = some next ∧
      Follows properties sections start next ∧
      Advances sections.size loop next ∧
      next.flood.potential sections.size <
        loop.flood.potential sections.size := by
  obtain ⟨fits, -, -, joined_inRange, joined_le, steps, run_eq⟩ := follows
  rw [offered, done, List.foldl_nil] at run_eq
  cases taken : loop.waiting.pop? with
  | none => exact absurd ((Fifo.pop?_eq_none_iff _).1 taken) waits
  | some first =>
      obtain ⟨word, rest⟩ := first
      have popped : loop.flood.waiting.pop? =
          some (Voxel.ofWord word, rest.map Voxel.ofWord) := by
        rw [flood, Fifo.pop?_map, taken]
        rfl
      obtain ⟨inRange, restFits⟩ := fits.of_pop? popped
      have here : loop.light.levelAtChecked (Voxel.ofWord word) =
          some (loop.light.levelAt (Voxel.ofWord word)) :=
        LightData.levelAtChecked_eq fits.size_eq inRange
      let next : SpreadLoop := { loop with
        waiting := rest
        level := loop.light.levelAt (Voxel.ofWord word)
        ahead := if loop.light.levelAt (Voxel.ofWord word) ≤ 1 then []
          else (Voxel.ofWord word).neighbors sections.size }
      have spread : next.offered properties sections =
          Flood.spreadFrom properties sections
            ⟨loop.light, rest.map Voxel.ofWord⟩ (Voxel.ofWord word) := by
        rw [offered, Flood.spreadFrom]
        dsimp only [next]
        split <;> rfl
      have shorter : next.flood.potential sections.size + 1 =
          loop.flood.potential sections.size := by
        have lengths := congrArg List.length (Fifo.pop?_eq_some popped)
        rw [List.length_cons, Fifo.length_toList, Fifo.length_toList]
          at lengths
        rw [Flood.potential_eq, Flood.potential_eq, lengths,
          Nat.add_right_comm]
        rfl
      refine ⟨next, ?_, ?_, ⟨fun _ _ => le_rfl, by omega⟩, by omega⟩
      · rw [step?, done]
        simp only [take?, taken, here, Option.bind_eq_bind, Option.bind_some]
        rfl
      · refine ⟨restFits, ?_, LightData.level_lt _ _ _, joined_inRange,
          joined_le, steps + 1, ?_⟩
        · intro voxel member
          rw [List.mem_ite_nil_left] at member
          exact ((Voxel.mem_neighbors_iff inRange).1 member.2).1
        · rw [Flood.run_add, ← run_eq, Flood.run, popped, spread]
          rfl

section

variable
    (few : sections.size < 2 ^ 20)
    (cubes : ∀ palette ∈ sections, palette.SectionCube)
include few cubes

omit few in
/--
The accesses of an offer are within their bounds, and a slab that was put there
for it stays only with light in it.
-/
theorem offer?_eq
    (fits : loop.flood.Fits sections.size)
    {voxel : Voxel}
    (inRange : voxel.InRange sections.size)
    (ahead : List Voxel) :
    loop.offer? properties sections voxel ahead =
      some (if loop.flood.light.levelAt voxel +
          properties.cost (blockOf sections voxel) < loop.level then
        loop.raise (loop.flood.raise voxel
          (loop.level - properties.cost (blockOf sections voxel))).light
          voxel ahead
      else { loop with ahead := ahead }) := by
  have light_eq : loop.flood.light = loop.light := rfl
  have size_eq : loop.light.size = sections.size + 2 := fits.size_eq
  have sized :
      (loop.light.allocate (voxel.slot + 1)).size = sections.size + 2 :=
    (LightData.size_allocate _ _).trans size_eq
  rw [offer?, blockOfChecked_eq cubes inRange, light_eq]
  simp only [Option.bind_eq_bind, Option.bind_some,
    LightData.allocateChecked_eq size_eq inRange,
    LightData.levelAtChecked_eq sized inRange, Flood.levelAt_allocate,
    LightData.setPresentLevelAtChecked_eq sized inRange,
    LightData.setPresentLevel_allocate]
  generalize properties.cost (blockOf sections voxel) = cost
  by_cases spent : loop.level ≤ cost
  · rw [if_pos spent, if_neg (by omega)]
    rfl
  · rw [if_neg spent]
    by_cases brighter : loop.light.levelAt voxel < loop.level - cost
    · rw [if_pos brighter, if_pos (by omega)]
      rfl
    · have lit : 0 < loop.light.levelAt voxel := by omega
      rw [if_neg brighter, if_neg (by omega), LightData.allocate_of_present
        (LightData.isSome_slab?_of_lit lit)]
      rfl

/-- An offer of the loop is one to the flood, and the next cell has its turn. -/
theorem Follows.offer
    (follows : Follows properties sections start loop)
    {voxel : Voxel}
    {ahead : List Voxel}
    (turn : loop.ahead = voxel :: ahead) :
    ∃ next, loop.step? properties sections = some next ∧ next.ahead = ahead ∧
      Follows properties sections start next ∧
        Advances sections.size loop next := by
  obtain ⟨fits, ahead_inRange, level_lt, joined_inRange, joined_le, steps,
    run_eq⟩ := follows
  rw [turn] at ahead_inRange
  have inRange := ahead_inRange voxel List.mem_cons_self
  have later : ∀ other ∈ ahead, other.InRange sections.size :=
    fun other member => ahead_inRange other (List.mem_cons_of_mem _ member)
  have offers := @offer?_eq properties _ _ cubes fits _ inRange ahead
  have positive := Flood.cost_pos properties (blockOf sections voxel)
  rw [offered, turn, List.foldl_cons] at run_eq
  rcases Flood.offer_cases properties sections loop.level
      loop.flood voxel with
    ⟨brighter, raised⟩ | ⟨enough, same⟩
  · rw [if_pos brighter] at offers
    generalize given : loop.level -
      properties.cost (blockOf sections voxel) = level at raised offers
    have above : loop.flood.light.levelAt voxel < level := by omega
    have small : level < 16 := by omega
    have flood_eq :
        (loop.raise (loop.flood.raise voxel level).light voxel ahead).flood =
        loop.flood.raise voxel level := by
      rw [flood, raise, Fifo.map_push, Voxel.ofWord_word few.le inRange]
      rfl
    refine ⟨loop.raise (loop.flood.raise voxel level).light voxel ahead, ?_,
      rfl, ?_, ?_⟩
    · rw [step?, turn]
      exact offers
    · refine ⟨?_, later, level_lt, ?_, ?_, steps, ?_⟩
      · rw [flood_eq]
        exact fits.raise inRange level
      · intro word member
        rcases List.mem_append.1 member with before | fresh
        · exact joined_inRange word before
        · rw [List.mem_singleton.1 fresh, Voxel.ofWord_word few.le inRange]
          exact inRange
      · have darker := Flood.darkness_raise_lt fits inRange above small
        have longer :
            (loop.raise (loop.flood.raise voxel level).light voxel
              ahead).joined.length =
            loop.joined.length + 1 := List.length_append
        have before : loop.flood.light.darkness sections.size =
          loop.light.darkness sections.size := rfl
        have after :
            (loop.raise (loop.flood.raise voxel level).light voxel
              ahead).light =
          (loop.flood.raise voxel level).light := rfl
        rw [longer, after]
        omega
      · rw [← run_eq, raised, offered, flood_eq]
        rfl
    · refine ⟨Flood.level_le_raise fits inRange above small, ?_⟩
      rw [flood_eq]
      exact Flood.potential_raise_le fits inRange above small
  · rw [if_neg (Nat.not_lt.2 enough)] at offers
    refine ⟨{ loop with ahead := ahead }, ?_, rfl, ?_, fun _ _ =>
      le_rfl, le_rfl⟩
    · rw [step?, turn]
      exact offers
    · refine ⟨fits, later, level_lt, joined_inRange, joined_le, steps, ?_⟩
      rw [← run_eq, same]
      rfl

/-! ## The end of the loop -/

/-- The present level is offered to all cells that are ahead. -/
theorem Follows.exists_offered
    (follows : Follows properties sections start loop) :
    ∃ next, Leads properties sections loop next ∧ next.ahead = [] ∧
      Follows properties sections start next ∧
      next.flood.potential sections.size ≤
        loop.flood.potential sections.size := by
  generalize turns : loop.ahead = ahead
  induction ahead generalizing loop with
  | nil => exact ⟨loop, .refl, turns, follows, le_rfl⟩
  | cons voxel ahead ih =>
      obtain ⟨next, step, rest, kept, advances⟩ :=
        follows.offer few cubes turns
      obtain ⟨last, leads, done, follows, bounded⟩ := ih kept rest
      exact ⟨last, .head step leads, done, follows,
        bounded.trans advances.potential_le⟩

/-- The loop runs until it is idle, within the bounds of its accesses. -/
theorem Follows.exists_idle
    (follows : Follows properties sections start loop) :
    ∃ final, Leads properties sections loop final ∧ final.Idle ∧
      Follows properties sections start final := by
  generalize bound : loop.flood.potential sections.size = potential
  induction potential using Nat.strongRecOn generalizing loop with
  | ind potential ih =>
      obtain ⟨between, leads, done, kept, bounded⟩ :=
        follows.exists_offered few cubes
      by_cases waits : between.waiting.toList = []
      · exact ⟨between, leads, ⟨done, waits⟩, kept⟩
      · obtain ⟨next, step, taken, -, less⟩ := kept.take done waits
        obtain ⟨final, rest, idle, last⟩ := ih _ (by omega) taken rfl
        exact ⟨final, leads.trans (.head step rest), idle, last⟩

/-- What holds at the start holds as long as the loop runs. -/
theorem Follows.step
    (follows : Follows properties sections start loop)
    {next : SpreadLoop}
    (step : loop.step? properties sections = some next) :
    Follows properties sections start next ∧
      Advances sections.size loop next := by
  cases turn : loop.ahead with
  | cons voxel ahead =>
      obtain ⟨other, same, -, kept, advances⟩ := follows.offer few cubes turn
      obtain rfl := Option.some.inj (step.symm.trans same)
      exact ⟨kept, advances⟩
  | nil =>
      have waits : loop.waiting.toList ≠ [] := by
        intro empty
        rw [step?, turn] at step
        simp [take?, (Fifo.pop?_eq_none_iff _).2 empty] at step
      obtain ⟨other, same, kept, advances, -⟩ := follows.take turn waits
      obtain rfl := Option.some.inj (step.symm.trans same)
      exact ⟨kept, advances⟩

theorem Follows.leads
    (follows : Follows properties sections start loop)
    {later : SpreadLoop}
    (leads : Leads properties sections loop later) :
    Follows properties sections start later := by
  induction leads with
  | refl => exact follows
  | tail _ step ih => exact (ih.step few cubes step).1

end

/-- The loop starts at the waiting cells of a flood. -/
theorem follows_ofFlood
    (few : sections.size < 2 ^ 20)
    {flood : Flood}
    (fits : flood.Fits sections.size) :
    Follows properties sections flood (ofFlood flood) := by
  have flood_eq : (ofFlood flood).flood = flood := by
    rw [SpreadLoop.flood, ofFlood, Fifo.map_map_of_read fun voxel waits =>
      Voxel.ofWord_word few.le (fits.waiting_inRange voxel waits)]
  refine ⟨flood_eq.symm ▸ fits, nofun, Nat.zero_lt_succ 15, nofun, ?_, 0,
    flood_eq⟩
  exact (Nat.zero_add _).le

/--
The loop of a flood came to its end, at the light that the flood settles at.
-/
structure Ends
    (properties : LightProperties)
    (sections : Array Palette)
    (flood : Flood)
    (final : SpreadLoop) : Prop where
  leads : Leads properties sections (ofFlood flood) final
  idle : final.Idle
  light_eq : final.light = flood.settle properties sections
  /-- No more words joined than the cells lacked levels. -/
  joined_le : final.joined.length ≤ flood.light.darkness sections.size
  joined_inRange :
    ∀ word ∈ final.joined, (Voxel.ofWord word).InRange sections.size
  /-- No step lowered a level or raised it past the brightest. -/
  level_le : ∀ before after,
    Leads properties sections (ofFlood flood) before →
    before.step? properties sections = some after → ∀ slot index,
      before.light.level slot index ≤ after.light.level slot index ∧
        after.light.level slot index ≤ maxLevel

/--
From whatever cells of a column light is to be spread: the loop ends, with no
access out of bounds, once at most as many words joined the queue as the cells
lacked levels at the start.  Each of these words stands for a cell of the
column, and no step lowers a level or raises it past the brightest.
-/
theorem exists_ends
    (properties : LightProperties)
    {sections : Array Palette}
    (few : sections.size < 2 ^ 20)
    (cubes : ∀ palette ∈ sections, palette.SectionCube)
    {flood : Flood}
    (fits : flood.Fits sections.size) :
    ∃ final, Ends properties sections flood final := by
  have started : Follows properties sections flood (ofFlood flood) :=
    follows_ofFlood few fits
  obtain ⟨final, leads, idle, last⟩ := started.exists_idle few cubes
  obtain ⟨steps, run_eq⟩ := last.run_eq
  rw [offered, idle.1, List.foldl_nil] at run_eq
  have empty : (flood.run properties sections steps).waiting.toList = [] := by
    rw [← run_eq, SpreadLoop.flood, Fifo.toList_map, idle.2, List.map_nil]
  refine ⟨final, leads, idle, ?_, (Nat.le_add_right _ _).trans last.joined_le,
    last.joined_inRange, ?_⟩
  · rw [← Flood.light_run_of_idle fits empty, ← run_eq]
    rfl
  · intro before after reached step slot index
    have advances := ((started.leads few cubes reached).step few cubes step).2
    exact ⟨advances.level_le slot index,
      Nat.le_of_lt_succ (LightData.level_lt _ _ _)⟩

/--
A lamp at the top of its section is about to light the one above, which lies
in the dark.
-/
def lampFlood : Flood := (Flood.still (.empty 2)).raise ⟨0, 8, 15, 8⟩ maxLevel

theorem exists_ends_lampFlood :
    #[LightInput.lampAt 8 15 8, Palette.blocks air].size < 2 ^ 20 ∧
      (∀ palette ∈ #[LightInput.lampAt 8 15 8, Palette.blocks air],
        palette.SectionCube) ∧
      lampFlood.Fits 2 ∧ lampFlood.waiting.toList = [⟨0, 8, 15, 8⟩] ∧
      ∃ final, Ends LightInput.lampProperties
        #[LightInput.lampAt 8 15 8, Palette.blocks air] lampFlood final := by
  have few :
      #[LightInput.lampAt 8 15 8, Palette.blocks air].size < 2 ^ 20 := by
    rw [List.size_toArray]
    decide
  have cubes : ∀ palette ∈ #[LightInput.lampAt 8 15 8, Palette.blocks air],
      palette.SectionCube := by
    simp only [List.mem_toArray, List.forall_mem_cons, List.not_mem_nil,
      false_imp_iff, implies_true, and_true]
    exact ⟨LightInput.sectionCube_lampAt (by decide) (by decide) (by decide),
      Palette.sectionCube_blocks air⟩
  have fits : lampFlood.Fits 2 :=
    (LightInput.fits_still_empty 2).raise (by decide) maxLevel
  exact ⟨few, cubes, fits, rfl,
    exists_ends LightInput.lampProperties few cubes fits⟩

end SpreadLoop

end VoxelRelay
