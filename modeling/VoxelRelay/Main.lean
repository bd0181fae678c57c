import VoxelRelay.Demo.Program

/-!
# The command line

Reads the arguments and the settings directory, runs the program, and writes
out what it leads to.
-/

namespace VoxelRelay.CommandLine

/-- The number of processors that workers may use. -/
def processors : Nat := 4

/-- What a request for help is answered with. -/
def usage : String :=
  "Usage: voxbridge [OPTIONS]\n\nOptions:\n" ++
    String.join
      (Setting.all.map fun setting =>
        "      --" ++ setting.name ++ " <VALUE>\n") ++
    "  -h, --help"

/-- What arguments without a session are answered with. -/
def complaint : ArgumentError → String
  | .unknown => "error: unexpected argument found"
  | .invalidValue => "error: invalid value for an option"
  | .missingValue =>
      "error: a value is required for an option but none was supplied"
  | .repeated => "error: an option cannot be used multiple times"
  | .unexpectedValue => "error: unexpected value for an option"
  | .help => usage

/-- The directory in which settings lie when the arguments name none. -/
def defaultDirectory : IO String := do
  match ← IO.getEnv "XDG_CONFIG_HOME", ← IO.getEnv "HOME" with
  | some base, home =>
      if base.startsWith "/" then return base ++ "/voxbridge"
      else return (home.map (· ++ "/.config/voxbridge")).getD ".voxbridge"
  | none, some home => return home ++ "/.config/voxbridge"
  | none, none => return ".voxbridge"

/-- The words by which the system says that a part of a path is no directory. -/
def notADirectory : String := "not a directory"

/-- Looks at what stands in the place of a settings directory. -/
def look (path : String) : IO SettingsDirectory := do
  match ← (IO.FS.readBinFile (path ++ "/config.ron")).toBaseIO with
  | .ok content => return .holds (.bytes content)
  | .error (.noFileOrDirectory ..) => return .missing
  | .error (.inappropriateType _ _ details) =>
      return if details = notADirectory then .blocked else .holds .blocked
  | .error _ => return .holds .blocked

/-- Writes a settings file that was not there before. -/
def store (path : String) (before after : SettingsDirectory) : IO Unit := do
  match before.file, after.file with
  | .missing, .bytes content =>
      IO.FS.createDirAll path
      IO.FS.writeBinFile (path ++ "/config.ron") content
  | _, _ => return

/-- Runs the program with arguments that make sense. -/
def run (arguments : Arguments) : IO UInt32 := do
  let path ← (arguments.directory.map pure).getD defaultDirectory
  let before ← look path
  let result := ProgramRun.of arguments before processors
  store path before result.directory
  for line in result.complaints do
    IO.eprintln line
  for line in result.log do
    IO.println line.render
  return result.exitCode.toUInt32

end VoxelRelay.CommandLine

open VoxelRelay CommandLine in
/-- Reads the arguments and runs the program. -/
def main (list : List String) : IO UInt32 := do
  match Arguments.parse list with
  | .ok arguments => run arguments
  | .error error => do
      if error = .help then IO.println usage
      else IO.eprintln (complaint error)
      return error.exitCode.toUInt32
