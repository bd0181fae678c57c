import VoxelRelay.Demo.Session
import VoxelRelay.Settings.Arguments
import VoxelRelay.Settings.Directory

/-!
# The program

A run of the program: settings are read from their directory, arguments take
the place of some of them, and a session follows when the world's bounds are
valid.  The settings have no say in where they lie, so the caller looks up the
directory that the arguments name.
-/

namespace VoxelRelay

/-- What a run of the program leads to. -/
structure ProgramRun where
  exitCode : Nat
  /-- The lines of the log. -/
  log : List Log.Line
  /-- What goes to the terminal beside the log. -/
  complaints : List String
  /-- The settings directory afterwards. -/
  directory : SettingsDirectory

namespace ProgramRun

/-- Reads the settings, falling back to the standard ones with a complaint. -/
def settle (directory : SettingsDirectory) :
    Settings × SettingsDirectory × List String :=
  match directory.loadOrCreate with
  | .ok (settings, written) => (settings, written, [])
  | .error error =>
      (.standard, directory,
        ["Failed to load config: " ++ error.message ++ ", using defaults"])

/-- Runs the program with arguments that make sense. -/
def of
    (arguments : Arguments)
    (directory : SettingsDirectory)
    (processors : Nat) : ProgramRun :=
  let (loaded, written, complaints) := settle directory
  let settings := arguments.override loaded
  match settings.world.validate, Terrain.table with
  | .error error, _ => ⟨2, [], complaints ++ [error.message], written⟩
  | _, .error error =>
      ⟨1, [], complaints ++ ["Invalid demo mappings: " ++ error.message],
        written⟩
  | .ok _, .ok table =>
      ⟨0, Session.run settings table processors arguments.tickCount,
        complaints, written⟩

end ProgramRun

end VoxelRelay
