import VoxelRelay.Notation.Value
import VoxelRelay.Settings.Basic

/-!
# Reading settings

The settings are a record of records.  A field that is left out keeps its
standard value, a field that nobody knows is passed over, and a field that is
given twice is refused.  A record may be preceded by its name, and has to be
if the text asks for the extension that says so.
-/

namespace VoxelRelay.Settings

open Notation

/-! ## Records -/

/-- How a known field changes the value it belongs to. -/
abbrev Field (α : Type) := α → Reader α

/--
A record under construction, with the names of the fields that were given.
-/
structure Draft (α : Type) where
  value : α
  given : List String

/--
Takes the name of a record; it may be missing unless names are compulsory.
-/
def recordName (asked : Extensions) (name : String) : Reader Unit := do
  if ← seesLetter then guard ((← identifier) = name)
  else guard !asked.explicitNames

/-- Takes one field of a record. -/
def field
    {α : Type}
    (asked : Extensions)
    (known : String → Option (Field α))
    (depth : Nat)
    (draft : Draft α) : Reader (Draft α) := do
  let name ← identifier
  gap
  symbol ":"
  match known name with
  | none =>
      skipValue asked depth
      return draft
  | some change => do
      guard (!draft.given.contains name)
      return ⟨← change draft.value, name :: draft.given⟩

/-- Takes a record; the values of unknown fields may nest within the depth. -/
def record
    {α : Type}
    (asked : Extensions)
    (name : String)
    (known : String → Option (Field α))
    (depth : Nat)
    (start : α) : Reader α := do
  recordName asked name
  gap
  expect "("
  return (← items ")" (field asked known depth) ⟨start, []⟩).value

/-- Takes a truth value. -/
def truth : Reader Bool := do
  if ← acceptWord "true" then return true
  guard (← acceptWord "false")
  return false

/-- Takes a signed integer of 32 bits. -/
def signed : Reader Int32 := return .ofInt (← integer "i32")

/-- Takes a natural number of 32 bits. -/
def narrow : Reader UInt32 := return (← integer "u32").toNat.toUInt32

/-- Takes a natural number of 64 bits. -/
def count : Reader Nat := return (← integer "u64").toNat

/-- The fields of the world. -/
def worldField? : String → Option (Field WorldSettings)
  | "min_y" => some fun world => return { world with minY := ← signed }
  | "height" => some fun world => return { world with height := ← narrow }
  | _ => none

/-- The fields of the window. -/
def viewField? : String → Option (Field ViewSettings)
  | "radius" => some fun view => return { view with radius := ← narrow }
  | "recenter_outside_render" =>
      some fun view => return { view with recenterOutsideRender := ← truth }
  | _ => none

/-- The fields of the work per tick. -/
def schedulerField? : String → Option (Field SchedulerSettings)
  | "chunks_per_tick" =>
      some fun scheduler =>
        return { scheduler with columnsPerTick := ← count }
  | "light_updates_per_tick" =>
      some fun scheduler =>
        return { scheduler with lightUpdatesPerTick := ← count }
  | "sub_chunk_batch_size" =>
      some fun scheduler =>
        return { scheduler with requestBatchSize := ← count }
  | _ => none

/-- The fields of the light cache. -/
def lightField? : String → Option (Field LightSettings)
  | "cache_entries" =>
      some fun light => return { light with cacheEntries := ← count }
  | "worker_threads" =>
      some fun light => return { light with workerThreads := ← count }
  | _ => none

/-- The fields of what serves the search for faults. -/
def debugField? : String → Option (Field String)
  | "log_level" => some fun _ => text
  | _ => none

/--
How deep containers and their items may nest, the settings themselves
included.
-/
def maxDepth : Nat := 128

/-- The fields of the settings. -/
def sectionField? (asked : Extensions) : String → Option (Field Settings)
  | "world" => some fun settings => return { settings with
      world :=
        ← record asked "WorldConfig" worldField? (maxDepth - 4)
          standard.world }
  | "view" => some fun settings => return { settings with
      view :=
        ← record asked "ViewConfig" viewField? (maxDepth - 4) standard.view }
  | "scheduler" => some fun settings => return { settings with
      scheduler :=
        ← record asked "SchedulerConfig" schedulerField? (maxDepth - 4)
          standard.scheduler }
  | "light" => some fun settings => return { settings with
      light :=
        ← record asked "LightConfig" lightField? (maxDepth - 4)
          standard.light }
  | "debug" => some fun settings => return { settings with
      logLevel :=
        ← record asked "DebugConfig" debugField? (maxDepth - 4)
          standard.logLevel }
  | _ => none

/-- Takes settings with what precedes and follows them. -/
def whole : Reader Settings := do
  gap
  let asked ← attributes ((← get).length + 1) .plain
  let settings ← record asked "Config" (sectionField? asked)
    (maxDepth - 2) standard
  gap
  guard (← get).isEmpty
  return settings

/-- Reads settings from a text. -/
def parse? (text : String) : Option Settings :=
  whole.run' text.toList

end VoxelRelay.Settings
