import VoxelRelay.Fifo
import VoxelRelay.Light.Input
import VoxelRelay.Mapping

/-!
# Flooding a column with light

Light spreads from cell to cell within a column and loses at least one level
in each step; going into a cell that filters more, it loses that much.  Cells
whose level was raised wait in a queue; each in turn offers its light to its
six neighbors, and a neighbor that is raised joins the queue.

Every step takes a cell from the queue, and every cell that joins was raised
by at least one level towards 15.  So the number of cells bounds the number of
steps, and `settle` runs that many.
-/

namespace VoxelRelay

/-- A cell of a column: the section from the bottom and the place within it. -/
structure Voxel where
  slot : Nat
  x : Nat
  y : Nat
  z : Nat
deriving DecidableEq, Repr, Inhabited

namespace Voxel

/-- Whether a cell lies within a column of `count` sections. -/
def InRange (count : Nat) (voxel : Voxel) : Prop :=
  voxel.slot < count ∧ voxel.x < 16 ∧ voxel.y < 16 ∧ voxel.z < 16

instance (count : Nat) (voxel : Voxel) : Decidable (voxel.InRange count) :=
  inferInstanceAs (Decidable (_ ∧ _))

/-- The number of a cell within its section. -/
@[inline]
def index (voxel : Voxel) : Nat := cellIndex voxel.x voxel.y voxel.z

/-- The cell below, if there is one. -/
@[inline]
def below? (voxel : Voxel) : Option Voxel :=
  if 0 < voxel.y then some { voxel with y := voxel.y - 1 }
  else if 0 < voxel.slot then
    some { voxel with slot := voxel.slot - 1, y := 15 }
  else none

/-- The cell above, if there is one in a column of `count` sections. -/
@[inline]
def above? (count : Nat) (voxel : Voxel) : Option Voxel :=
  if voxel.y + 1 < 16 then some { voxel with y := voxel.y + 1 }
  else if voxel.slot + 1 < count then
    some { voxel with slot := voxel.slot + 1, y := 0 }
  else none

/--
The cells that share a face with a cell, within a column of `count` sections.
-/
def neighbors (count : Nat) (voxel : Voxel) : List Voxel :=
  (if 0 < voxel.x then [{ voxel with x := voxel.x - 1 }] else []) ++
  (if voxel.x + 1 < 16 then [{ voxel with x := voxel.x + 1 }] else []) ++
  voxel.below?.toList ++
  (voxel.above? count).toList ++
  (if 0 < voxel.z then [{ voxel with z := voxel.z - 1 }] else []) ++
  (if voxel.z + 1 < 16 then [{ voxel with z := voxel.z + 1 }] else [])

/-- All cells of a section, rows along `x` from the bottom. -/
def ofSection (slot : Nat) : List Voxel :=
  (List.range 4096).map fun index =>
    { slot := slot, x := index % 16, y := index / 256, z := index / 16 % 16 }

end Voxel

/-- The light lost on the way into a block state, at least one level. -/
@[inline]
def LightProperties.cost (properties : LightProperties) (id : UInt32) : Nat :=
  max 1 (properties.filter id)

/-- The block state of a cell. -/
@[inline]
def blockOf (sections : Array Palette) (voxel : Voxel) : UInt32 :=
  match sections[voxel.slot]? with
  | some palette => palette.idAt voxel.x voxel.y voxel.z
  | none => air

/-- The level of a cell; slab 0 lies below the bottom section. -/
@[inline]
def LightData.levelAt (light : LightData) (voxel : Voxel) : Nat :=
  light.level (voxel.slot + 1) voxel.index

/-- Light that is still spreading, with the cells that wait to spread it. -/
structure Flood where
  light : LightData
  waiting : Fifo Voxel
deriving Repr, Inhabited

namespace Flood

/-- Light from which nothing waits to spread. -/
def still (light : LightData) : Flood := ⟨light, .empty⟩

/-- Lets a cell join the queue. -/
@[inline]
def push (flood : Flood) (voxel : Voxel) : Flood :=
  ⟨flood.light, flood.waiting.push voxel⟩

/-- Raises the level of a cell, which then waits to spread it. -/
@[inline]
def raise (flood : Flood) (voxel : Voxel) (level : Nat) : Flood :=
  ⟨flood.light.setLevel (voxel.slot + 1) voxel.index level,
    flood.waiting.push voxel⟩

/--
Offers light of a level from next to a cell.  Where the cost of going into the
cell leaves any, the cell gets a slab first, if it has none; what is left is
compared with the level in the slab and written there if it is brighter.
-/
@[inline]
def offer
    (properties : LightProperties)
    (sections : Array Palette)
    (level : Nat)
    (flood : Flood)
    (voxel : Voxel) : Flood :=
  let cost := properties.cost (blockOf sections voxel)
  if level ≤ cost then flood
  else
    let left := level - cost
    let light := flood.light.allocate (voxel.slot + 1)
    if light.levelAt voxel < left then
      ⟨light.setPresentLevel (voxel.slot + 1) voxel.index left,
        flood.waiting.push voxel⟩
    else ⟨light, flood.waiting⟩

/-- Lets a cell offer its light to its neighbors. -/
def spreadFrom
    (properties : LightProperties)
    (sections : Array Palette)
    (flood : Flood)
    (voxel : Voxel) : Flood :=
  let level := flood.light.levelAt voxel
  if level ≤ 1 then flood
  else
    (voxel.neighbors sections.size).foldl
      (offer properties sections level) flood

/--
Takes the given number of cells from the queue, or all if there are fewer.
-/
def run
    (properties : LightProperties)
    (sections : Array Palette) : Nat → Flood → Flood
  | 0, flood => flood
  | steps + 1, flood =>
      match flood.waiting.pop? with
      | some (voxel, rest) =>
          run properties sections steps
            (spreadFrom properties sections ⟨flood.light, rest⟩ voxel)
      | none => flood

/-- A number of steps after which no cell waits. -/
def stepBound (sections : Array Palette) (flood : Flood) : Nat :=
  flood.waiting.length + maxLevel * 4096 * sections.size

/-- Spreads light until no cell waits. -/
def settle
    (properties : LightProperties)
    (sections : Array Palette)
    (flood : Flood) : LightData :=
  (flood.run properties sections (flood.stepBound sections)).light

/--
Offers the border light of one neighbor to the cells of this column that touch
it.
-/
def injectFrom
    (properties : LightProperties)
    (sections : Array Palette)
    (direction : Direction)
    (flood : Flood)
    (neighbor : LightData) : Flood :=
  Nat.fold sections.size (fun slot _ flood =>
    match neighbor.slab? (slot + 1) with
    | none => flood
    | some border =>
        Nat.fold 16 (fun a _ flood =>
          let (x, z) := faceCell direction a
          let (theirX, theirZ) := faceCell direction.opposite a
          Nat.fold 16 (fun y _ flood =>
            let level := border.get (cellIndex theirX y theirZ)
            if level ≤ 1 then flood
            else
              flood.offer properties sections level
                { slot := slot, x := x, y := y, z := z })
            flood)
          flood)
    flood

/-- Offers the border light of all neighbors, in listing order. -/
def inject
    (properties : LightProperties)
    (sections : Array Palette)
    (neighbors : Sides (Option LightData))
    (flood : Flood) : Flood :=
  Direction.all.foldl (fun flood direction =>
    match neighbors.get direction with
    | none => flood
    | some neighbor =>
        flood.injectFrom properties sections direction neighbor) flood

end Flood

end VoxelRelay
