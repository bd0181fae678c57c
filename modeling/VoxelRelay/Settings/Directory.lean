import VoxelRelay.Settings.Reader
import VoxelRelay.Settings.Writer
import VoxelRelay.Warning

/-!
# Settings on disk

Settings live in one file of a directory.  The directory may be missing, or
something else may stand in its place or in the place of the file; then the
settings cannot be read or written.
-/

namespace VoxelRelay

/-- What stands in the place of the settings file. -/
inductive SettingsFile where
  | missing
  /-- A directory. -/
  | blocked
  | bytes (content : ByteArray)

/-- What stands in the place of the settings directory. -/
inductive SettingsDirectory where
  | missing
  /-- A file. -/
  | blocked
  | holds (file : SettingsFile)

namespace SettingsDirectory

/-- What stands in the place of the settings file. -/
def file : SettingsDirectory → SettingsFile
  | holds file => file
  | _ => .missing

/-- The text of the settings file, if it can be read. -/
def text? (directory : SettingsDirectory) : Option String :=
  match directory.file with
  | .bytes content => String.fromUTF8? content
  | _ => none

/-- Writes the settings file, and the directory with it. -/
def write (content : ByteArray) :
    SettingsDirectory → Except SettingsError SettingsDirectory
  | blocked | holds .blocked => .error .unwritable
  | _ => .ok (holds (.bytes content))

/-- Reads settings from the file. -/
def read (directory : SettingsDirectory) : Except SettingsError Settings := do
  match directory.text? with
  | none => .error .unreadable
  | some text =>
      match Settings.parse? text with
      | none => .error .malformed
      | some settings => do
          settings.world.validate
          return settings

/-- Writes settings to the file. -/
def save
    (directory : SettingsDirectory)
    (settings : Settings) : Except SettingsError SettingsDirectory :=
  directory.write settings.render.toUTF8

/--
Reads settings from the file, after writing the standard ones if there is
none.
-/
def loadOrCreate (directory : SettingsDirectory) :
    Except SettingsError (Settings × SettingsDirectory) :=
  match directory.file with
  | .missing => (directory.save .standard).map (.standard, ·)
  | _ => directory.read.map (·, directory)

/-- What reading the file once more leads to. -/
structure Reload where
  /-- The settings, if they are not those in use. -/
  settings : Option Settings
  warnings : List Warning

/--
Reads settings from the file once more.  Nothing comes of it when they are
those in use; a change of the world's bounds is worth a warning, as it cannot
take effect while the world runs.
-/
def reload
    (directory : SettingsDirectory)
    (current : Settings) : Except SettingsError Reload :=
  directory.read.map fun fresh =>
    if fresh = current then ⟨none, []⟩
    else
      ⟨some fresh, if fresh.world = current.world then []
        else [.geometryChanged]⟩

end SettingsDirectory

end VoxelRelay
