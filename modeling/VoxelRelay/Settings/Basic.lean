/-!
# Settings

What a session is run with: the vertical bounds of the world, the window of
columns shown, the work done per tick, the size of the light cache and the
level of the log.
-/

namespace VoxelRelay

/-- The vertical bounds of the world. -/
structure WorldSettings where
  /-- The height of the lowest blocks. -/
  minY : Int32
  /-- The height of the world in blocks. -/
  height : UInt32
deriving DecidableEq, Repr, Inhabited

/-- The window of columns shown. -/
structure ViewSettings where
  /-- The distance in columns to which the window reaches. -/
  radius : UInt32
  /-- Whether the window follows the player when a column arrives outside it. -/
  recenterOutsideRender : Bool
deriving DecidableEq, Repr, Inhabited

/-- The work done in one tick. -/
structure SchedulerSettings where
  /-- The most columns converted and sent. -/
  columnsPerTick : Nat
  /-- The most columns lit anew. -/
  lightUpdatesPerTick : Nat
  /-- The most sections in one request. -/
  requestBatchSize : Nat
deriving DecidableEq, Repr, Inhabited

/-- The light cache. -/
structure LightSettings where
  /-- The most results kept; zero keeps none. -/
  cacheEntries : Nat
  /-- The number of workers; zero computes without any. -/
  workerThreads : Nat
deriving DecidableEq, Repr, Inhabited

/-- All settings of a session. -/
structure Settings where
  world : WorldSettings
  view : ViewSettings
  scheduler : SchedulerSettings
  light : LightSettings
  /-- What the log shows. -/
  logLevel : String
deriving DecidableEq, Repr

namespace Settings

/-- The settings when nothing else is said. -/
def standard : Settings where
  world := ⟨-64, 384⟩
  view := ⟨8, true⟩
  scheduler := ⟨4, 8, 256⟩
  light := ⟨4096, 2⟩
  logLevel := "info"

instance : Inhabited Settings := ⟨standard⟩

end Settings

namespace WorldSettings

/-- The number of sections in a column. -/
def sectionCount (world : WorldSettings) : Nat := world.height.toNat / 16

/-- Whether the world is not empty and splits into whole sections. -/
def IsValid (world : WorldSettings) : Prop :=
  world.height ≠ 0 ∧ world.height.toNat % 16 = 0 ∧ world.minY.toInt % 16 = 0

instance (world : WorldSettings) : Decidable world.IsValid :=
  inferInstanceAs (Decidable (_ ∧ _ ∧ _))

end WorldSettings

/-- Why settings could not be read or written. -/
inductive SettingsError where
  /-- The file cannot be read. -/
  | unreadable
  /-- The file or its directory cannot be written. -/
  | unwritable
  /-- The text of the file is no settings. -/
  | malformed
  /-- The world does not split into whole sections. -/
  | invalidWorld (minY : Int32) (height : UInt32)
deriving DecidableEq, Repr

/-- The wording of an error in the settings. -/
def SettingsError.message : SettingsError → String
  | unreadable => "failed to read config: not a text file"
  | unwritable => "failed to write config: something else is in its place"
  | malformed => "failed to parse config: not a record of settings"
  | invalidWorld minY height =>
      "world min_y " ++ toString minY.toInt ++ " / height " ++
        toString height.toNat ++
        " must be non-empty multiples of 16"

/-- Refuses a world that does not split into whole sections. -/
def WorldSettings.validate (world : WorldSettings) :
    Except SettingsError Unit :=
  if world.IsValid then .ok ()
  else .error (.invalidWorld world.minY world.height)

end VoxelRelay
