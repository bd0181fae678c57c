import Std.Data.TreeMap
import Std.Data.TreeSet
import VoxelRelay.Settings.Basic
import VoxelRelay.Store.Message
import VoxelRelay.Store.Queue

/-!
# The column store

A store holds the loaded columns of one connection and what was derived from
them: which columns are due to be sent, which were sent, their converted
blocks and their light, which are due to be lit anew, and which sections are
wanted or under way.

A column is shown while it lies within the radius of the window's center or,
for what is loaded, of the player.  This module has the state, the window and
the questions one may ask.
-/

namespace VoxelRelay

/-- The window of columns: its center and radius, and where the player is. -/
structure ViewWindow where
  center : ColumnPos
  radius : UInt32
  player : Option ColumnPos
deriving DecidableEq, Repr, Inhabited

namespace ViewWindow

/-- Whether a column lies within the radius of the center. -/
def renders (view : ViewWindow) (pos : ColumnPos) : Bool :=
  view.center.distance pos ≤ view.radius.toNat

/-- Whether a column lies within the radius of the center or of the player. -/
def loads (view : ViewWindow) (pos : ColumnPos) : Bool :=
  view.renders pos || view.player.any fun player =>
    player.distance pos ≤ view.radius.toNat

end ViewWindow

/-- The columns of one connection and what was derived from them. -/
structure Store where
  settings : Settings
  converter : Converter
  view : ViewWindow
  columns : Std.TreeMap ColumnPos Column
  /-- Columns due to be converted and sent. -/
  dirty : ColumnQueue
  sent : Std.TreeSet ColumnPos
  /-- The converted blocks of the columns that were sent. -/
  converted : Std.TreeMap ColumnPos (Array Palette)
  /-- The light last sent for each column. -/
  light : Std.TreeMap ColumnPos ColumnLight
  /-- Columns due to be lit anew. -/
  relight : ColumnQueue
  /-- Sections that are wanted. -/
  wanted : Std.TreeSet SectionPos
  /-- Sections that were asked for and have not arrived. -/
  inFlight : Std.TreeSet SectionPos

namespace Store

/-- A store without columns, its window around the origin. -/
def create (settings : Settings) (converter : Converter) : Store where
  settings := settings
  converter := converter
  view := ⟨⟨0, 0⟩, settings.view.radius, none⟩
  columns := ∅
  dirty := .empty
  sent := ∅
  converted := ∅
  light := ∅
  relight := .empty
  wanted := ∅
  inFlight := ∅

/-- The table by which blocks and biomes are shown. -/
def table (store : Store) : MappingTable := store.converter.table

/-! ## The bounds of the world -/

/-- The height of the lowest blocks. -/
def minY (store : Store) : Int32 := store.settings.world.minY

/-- The height below which all blocks lie. -/
def maxY (store : Store) : Int32 :=
  let minY := store.minY
  store.settings.world.height.toInt32 - (if minY < 0 then -minY else minY)

/-- The number of sections in a column. -/
def sectionCount (store : Store) : Nat := store.settings.world.sectionCount

/-- The slot of a section in its column, if the world reaches there. -/
def slot? (store : Store) (sectionY : Int32) : Option Nat :=
  let offset := (sectionY - sectionCoordinate store.minY).toInt
  if 0 ≤ offset ∧ offset.toNat < store.sectionCount then some
    offset.toNat else none

/-! ## Questions -/

/-- A loaded column within the window. -/
def column? (store : Store) (pos : ColumnPos) : Option Column :=
  if store.view.loads pos then store.columns[pos]? else none

/-- Whether a column is loaded and lies within the window. -/
def isLoaded
    (store : Store)
    (pos : ColumnPos) : Bool := (store.column? pos).isSome

/-- Whether a column was sent. -/
def isSent (store : Store) (pos : ColumnPos) : Bool := store.sent.contains pos

/-- Whether a column is due to be sent. -/
def isDirty
    (store : Store)
    (pos : ColumnPos) : Bool := store.dirty.contains pos

/-- The light last sent for a column. -/
def sentLight?
    (store : Store)
    (pos : ColumnPos) : Option ColumnLight := store.light[pos]?

/-- A section of a loaded column within the window. -/
def section? (store : Store) (pos : SectionPos) : Option Section := do
  let slot ← store.slot? pos.y
  (← store.column? pos.column).section? slot

/-- The source block at a position in a layer, air where there is none. -/
def blockAt (store : Store) (layer : Nat) (pos : BlockPos) : UInt32 :=
  let (x, y, z) := pos.inSection
  ((store.section? pos.sectionPos).bind (·.blockAt? layer x y z)).getD
    store.table.sourceAir

/-- The destination state at a position, air where there is no section. -/
def destinationAt (store : Store) (pos : BlockPos) : UInt32 :=
  let (x, y, z) := pos.inSection
  match store.section? pos.sectionPos with
  | some content => content.destinationState store.table x y z
  | none => air

/-- The remarks on the destination state at a position. -/
def destinationWarnings (store : Store) (pos : BlockPos) : List Warning :=
  let (x, y, z) := pos.inSection
  match store.section? pos.sectionPos with
  | some content => content.destinationWarnings store.table x y z
  | none => []

/-- The block entity at a position. -/
def entityAt? (store : Store) (pos : BlockPos) : Option SourceEntity :=
  (store.column? pos.column).bind (·.entityAt? pos)

/--
Whether the client cannot see the blocks of a position as they are: its column
is not loaded, its section awaits its content, or its column is due to be
sent.
-/
def isUnseen (store : Store) (pos : BlockPos) : Bool :=
  if store.isLoaded pos.column then
    match store.section? pos.sectionPos with
    | some content => content.isAwaiting || store.isDirty pos.column
    | none => false
  else true

/-- Whether there are no columns and no sections wanted or under way. -/
def isEmpty (store : Store) : Bool :=
  store.columns.isEmpty && store.wanted.isEmpty && store.inFlight.isEmpty

end Store

/-- What an operation on a store leads to. -/
structure Outcome (α : Type) where
  store : Store
  value : α
  /-- The messages sent, in order. -/
  messages : List Message
  warnings : List Warning

/-- An operation that changes the store and sends nothing. -/
def Outcome.silent
    {α : Type}
    (store : Store)
    (value : α) : Outcome α := ⟨store, value, [], []⟩

end VoxelRelay
