import VoxelRelay.Conversion.Heightmap
import VoxelRelay.Proofs.CellWrites

/-!
# Heights

One search of a column of cells finds what two searches would find, one for the
highest cell other than air and one for the highest cell that stops movement.
It goes on below the former only for the latter, and keeps what it has found
first; and it may end at the latter, since that cell is not air itself.  This is
`findPeaks_eq`.

Both searches read cells only.  The shortcut for sections of air alone finds
what a search of them would find, which is nothing, so stacks that hold the same
in every cell have the same heightmaps.
-/

namespace VoxelRelay

open Palette

/-! ## Within a section -/

namespace Palette

/--
The highest of the lowest `count` cells of a column of a section that passes a
test.
-/
def highest?
    (palette : Palette)
    (test : UInt32 → Bool)
    (x z : Nat) : Nat → Option Nat
  | 0 => none
  | y + 1 =>
      if test (palette.idAt x y z) then some y
      else palette.highest? test x z y

theorem highest?_congr
    {left right : Palette}
    (test : UInt32 → Bool)
    {x z count : Nat}
    (same : ∀ y, y < count → left.idAt x y z = right.idAt x y z) :
    left.highest? test x z count = right.highest? test x z count := by
  induction count with
  | zero => rfl
  | succ y ih =>
      rw [highest?, highest?, same y (Nat.lt_succ_self y),
        ih fun lower below => same lower (Nat.lt_succ_of_lt below)]

theorem highest?_eq_none_iff
    {palette : Palette}
    {test : UInt32 → Bool}
    {x z count : Nat} :
    palette.highest? test x z count = none ↔
      ∀ y < count, test (palette.idAt x y z) = false := by
  induction count with
  | zero => simp [highest?]
  | succ y ih =>
      rw [highest?, Nat.forall_lt_succ_right]
      split
      · next passes => simp [passes]
      · next fails => simp [ih, fails]

end Palette

/-- The test for what is not air and stops movement. -/
def bars (stops : UInt32 → Bool) (id : UInt32) : Bool := id != air && stops id

namespace Palette

/--
What stops movement is found only where something other than air is found.
-/
theorem highest?_bars_eq_none
    {palette : Palette}
    {x z count : Nat}
    (nothing : palette.highest? (· != air) x z count = none)
    (stops : UInt32 → Bool) :
    palette.highest? (bars stops) x z count = none := by
  rw [highest?_eq_none_iff] at nothing ⊢
  intro y below
  rw [bars, nothing y below, Bool.false_and]

/-- A section of air needs no search, as there is nothing to be found in it. -/
theorem highest?_of_single?
    {palette : Palette}
    (empty : palette.single? = some air)
    (x z count : Nat) :
    palette.highest? (· != air) x z count = none := by
  rw [highest?_eq_none_iff]
  intro y _
  have here : palette.idAt x y z = air := idAtCell_of_single? empty _
  rw [here]
  rfl

/--
In a section one search finds what two would find, except that it keeps what
it had.
-/
theorem findPeaks_eq
    (palette : Palette)
    (stops : UInt32 → Bool)
    (x z base count : Nat)
    (surface : Option Nat) :
    palette.findPeaks stops x z base count ⟨surface, none⟩ =
      ⟨surface.or ((palette.highest? (· != air) x z count).map (base + ·)),
        (palette.highest? (bars stops) x z count).map (base + ·)⟩ := by
  induction count generalizing surface with
  | zero => simp [findPeaks, highest?]
  | succ y ih =>
      rw [findPeaks, highest?, highest?]
      by_cases empty : palette.idAt x y z = air
      · simp [empty, bars, ih]
      · -- The surface is found here at the latest; the search ends if
        -- movement stops here too.
        by_cases stopped : stops (palette.idAt x y z) = true
        · simp [empty, stopped, bars]
        · simp [empty, stopped, bars, ih]

end Palette

/-! ## Stacks of sections -/

/-- The highest cell of the lowest `count` sections that passes a test. -/
def highestCell?
    (sections : Array Palette)
    (test : UInt32 → Bool)
    (x z : Nat) : Nat → Option Nat
  | 0 => none
  | slot + 1 =>
      ((sections[slot]?.bind (·.highest? test x z 16)).map (slot * 16 + ·)).or
        (highestCell? sections test x z slot)

/-- One search finds what two would find. -/
theorem findPeaks_eq
    (sections : Array Palette)
    (stops : UInt32 → Bool)
    (x z count : Nat)
    (surface : Option Nat) :
    findPeaks sections stops x z count ⟨surface, none⟩ =
      ⟨surface.or (highestCell? sections (· != air) x z count),
        highestCell? sections (bars stops) x z count⟩ := by
  induction count generalizing surface with
  | zero => simp [findPeaks, highestCell?]
  | succ slot ih =>
      rw [findPeaks, highestCell?, highestCell?]
      cases sections[slot]? with
      | none => simp [ih]
      | some palette =>
          rw [Option.bind_some, Option.bind_some]
          -- A surface is found here or nothing is, and in the latter case the
          -- search goes on.
          cases top : palette.highest? (· != air) x z 16 with
          | none =>
              have nothing := highest?_bars_eq_none top stops
              by_cases empty : palette.single? = some air
              · simp [empty, nothing, ih]
              · simp [empty, palette.findPeaks_eq, top, nothing, ih]
          | some y =>
              have filled : palette.single? ≠ some air := by
                intro empty
                rw [highest?_of_single? empty] at top
                cases top
              simp only [if_neg filled, palette.findPeaks_eq, top]
              cases palette.highest? (bars stops) x z 16 with
              | none => simp [ih]
              | some => simp

/-- Two stacks of cubes that hold the same in every cell. -/
structure SameStack (left right : Array Palette) : Prop where
  size_eq : left.size = right.size
  read_eq : ∀ (slot : Nat) (lower upper : Palette), left[slot]? = some lower →
    right[slot]? = some upper →
    ∀ place ∈ placesOf 16, lower.read place = upper.read place

namespace SameStack

variable {left right : Array Palette} (same : SameStack left right)
include same

theorem highestCell?_eq
    (test : UInt32 → Bool)
    {x z : Nat}
    (xLt : x < 16)
    (zLt : z < 16)
    (count : Nat) :
    highestCell? left test x z count = highestCell? right test x z count := by
  induction count with
  | zero => rfl
  | succ slot ih =>
      rw [highestCell?, highestCell?, ih]
      by_cases inside : slot < left.size
      · have below := Array.getElem?_eq_getElem inside
        have above := Array.getElem?_eq_getElem (same.size_eq ▸ inside)
        have equal := highest?_congr test fun y yLt =>
          same.read_eq slot _ _ below above (x, y, z)
            (mem_placesOf_iff.2 ⟨xLt, yLt, zLt⟩)
        rw [below, above, Option.bind_some, Option.bind_some, equal]
      · have below := Array.getElem?_eq_none (Nat.not_lt.1 inside)
        have above :=
          Array.getElem?_eq_none (same.size_eq ▸ Nat.not_lt.1 inside)
        rw [below, above]

theorem heightmaps_eq
    (table : MappingTable)
    (minY : Int32) :
    Heightmaps.ofSections table left minY =
      Heightmaps.ofSections table right minY := by
  have peaks : allPeaks left table.isMotionBlocking =
      allPeaks right table.isMotionBlocking := by
    rw [allPeaks, allPeaks, same.size_eq]
    apply Array.map_congr_left
    intro place member
    have below := Array.mem_range.1 member
    have xLt : place % 16 < 16 := Nat.mod_lt _ (by omega)
    have zLt : place / 16 < 16 := by omega
    rw [findPeaks_eq, findPeaks_eq, same.highestCell?_eq _ xLt zLt,
      same.highestCell?_eq _ xLt zLt]
  rw [Heightmaps.ofSections, Heightmaps.ofSections, peaks, same.size_eq]

end SameStack

end VoxelRelay
