import VoxelRelay.Settings.Basic
import VoxelRelay.Text.Integer

/-!
# Command-line arguments

Each option is given as `--name value` or `--name=value`, at most once, and
puts a value in place of the settings' own.  A value that stands by itself is
looked at only when the next option or the end of the arguments is reached, so
that an argument that makes no sense before then wins.
-/

namespace VoxelRelay

/-- Why a list of arguments is refused, or not acted upon. -/
inductive ArgumentError where
  /-- An argument that is neither an option nor the value of one. -/
  | unknown
  /-- A value that is no number within the bounds of its option. -/
  | invalidValue
  /-- An option without a value. -/
  | missingValue
  /-- An option that was given before. -/
  | repeated
  /-- A value for an option that takes none. -/
  | unexpectedValue
  /-- A request for help. -/
  | help
deriving DecidableEq, Repr

/--
What the program ends with when its arguments make no sense, or ask for help
only.
-/
def ArgumentError.exitCode : ArgumentError → Nat
  | help => 0
  | _ => 2

/-- An option that takes a value. -/
inductive Setting where
  | radius
  | minY
  | height
  | cacheEntries
  | workerThreads
  | logLevel
  | directory
  | ticks
deriving DecidableEq, Repr

namespace Setting

/-- All options that take a value. -/
def all : List Setting :=
  [radius, minY, height, cacheEntries, workerThreads, logLevel, directory,
    ticks]

/-- The name of an option. -/
def name : Setting → String
  | radius => "radius"
  | minY => "min-y"
  | height => "height"
  | cacheEntries => "cache-entries"
  | workerThreads => "worker-threads"
  | logLevel => "log-level"
  | directory => "config"
  | ticks => "ticks"

/-- The option of a name. -/
def ofName? (name : String) : Option Setting := all.find? (·.name = name)

/-- Whether the value of an option may begin with a hyphen. -/
def takesHyphen (setting : Setting) : Bool := setting = minY

end Setting

/-- The values that arguments give. -/
structure Arguments where
  radius : Option UInt32 := none
  minY : Option Int32 := none
  height : Option UInt32 := none
  cacheEntries : Option Nat := none
  workerThreads : Option Nat := none
  logLevel : Option String := none
  /-- The directory of the settings. -/
  directory : Option String := none
  ticks : Option UInt32 := none
deriving DecidableEq, Repr, Inhabited

namespace Arguments

/-! ## Numbers -/

/-- Reads an integer within bounds. -/
def bounded (low high : Int) (text : String) : Except ArgumentError Int :=
  match Text.integer? text with
  | some value =>
      if low ≤ value ∧ value ≤ high then .ok value else .error .invalidValue
  | none => .error .invalidValue

/-- Reads a signed integer of 32 bits. -/
def signed (text : String) : Except ArgumentError Int32 :=
  (bounded Int32.minValue.toInt Int32.maxValue.toInt text).map .ofInt

/-- Reads a natural number of 32 bits. -/
def narrow (text : String) : Except ArgumentError UInt32 :=
  (bounded 0 (UInt32.size - 1) text).map (·.toNat.toUInt32)

/--
Reads a natural number of 64 bits, which may not have a minus sign even when
it is zero.
-/
def count (text : String) : Except ArgumentError Nat :=
  match Text.natural? text with
  | some value =>
      if value < UInt64.size then .ok value else .error .invalidValue
  | none => .error .invalidValue

/-- Reads the path of a directory. -/
def path (text : String) : Except ArgumentError String :=
  if text.isEmpty then .error .missingValue else .ok text

/-! ## Arguments in turn -/

/-- Refuses a second value for an option. -/
def once
    {α : Type}
    (given : Option α)
    (value : Except ArgumentError α) : Except ArgumentError (Option α) :=
  if given.isSome then .error .repeated else value.map some

/-- Takes over the value of an option. -/
def assign
    (arguments : Arguments)
    (setting : Setting)
    (text : String) : Except ArgumentError Arguments := do
  match setting with
  | .radius =>
      return { arguments with
        radius := ← once arguments.radius (narrow text) }
  | .minY =>
      return { arguments with minY := ← once arguments.minY (signed text) }
  | .height =>
      return { arguments with
        height := ← once arguments.height (narrow text) }
  | .cacheEntries =>
      return { arguments with
        cacheEntries := ← once arguments.cacheEntries (count text) }
  | .workerThreads =>
      return { arguments with
        workerThreads := ← once arguments.workerThreads (count text) }
  | .logLevel =>
      return { arguments with
        logLevel := ← once arguments.logLevel (.ok text) }
  | .directory =>
      return { arguments with
        directory := ← once arguments.directory (path text) }
  | .ticks =>
      return { arguments with ticks := ← once arguments.ticks (narrow text) }

/-- An option whose value is not yet taken over. -/
inductive Pending where
  | none
  /-- Its value is still to come. -/
  | awaiting (setting : Setting)
  /-- Its value has come. -/
  | given (setting : Setting) (text : String)

/-- Takes over the value of a pending option. -/
def settle (arguments : Arguments) : Pending → Except ArgumentError Arguments
  | .none => .ok arguments
  | .awaiting _ => .error .missingValue
  | .given setting text => arguments.assign setting text

/-- What an argument looks like. -/
inductive Form where
  /-- The mark after which no options follow. -/
  | finish
  /-- An option by its name, perhaps with a value. -/
  | long (name : String) (value : Option String)
  /-- An option by its letter. -/
  | short (letter : Char)
  /-- A value. -/
  | plain

/-- Says what an argument looks like. -/
def Form.of (argument : String) : Form :=
  match argument.toList with
  | ['-', '-'] => finish
  | '-' :: '-' :: rest =>
      let name := String.ofList (rest.takeWhile (· ≠ '='))
      match rest.dropWhile (· ≠ '=') with
      | _ :: value => long name (some (String.ofList value))
      | [] => long name none
  | '-' :: letter :: _ => short letter
  | _ => plain

/-- Works through the arguments one after another. -/
def collect
    (arguments : Arguments)
    (pending : Pending) : List String → Except ArgumentError Arguments
  | [] => arguments.settle pending
  | argument :: rest => do
      match pending with
      | .awaiting setting =>
          if setting.takesHyphen then
            return ← collect arguments (.given setting argument) rest
      | _ => pure ()
      match Form.of argument, pending with
      | .finish, _ =>
          if rest.isEmpty then arguments.settle pending else .error .unknown
      | .long name value, _ =>
          match Setting.ofName? name, value with
          | some setting, some text =>
              collect (← (← arguments.settle pending).assign setting text)
                .none rest
          | some setting, none =>
              collect (← arguments.settle pending) (.awaiting setting) rest
          | none, some _ =>
              .error (if name = "help" then .unexpectedValue else .unknown)
          | none, none =>
              if name = "help" then
                let _ ← arguments.settle pending
                .error .help
              else .error .unknown
      | .short letter, _ =>
          if letter = 'h' then
            let _ ← arguments.settle pending
            .error .help
          else .error .unknown
      | .plain, .awaiting setting =>
          collect arguments (.given setting argument) rest
      | .plain, _ => .error .unknown

/-- Reads a list of arguments. -/
def parse (list : List String) : Except ArgumentError Arguments :=
  collect {} .none list

/-- The number of ticks to run, a hundred when nothing is said. -/
def tickCount (arguments : Arguments) : Nat :=
  (arguments.ticks.map (·.toNat)).getD 100

/-- Puts the values given in place of those of the settings. -/
def override (arguments : Arguments) (settings : Settings) : Settings where
  world := ⟨arguments.minY.getD settings.world.minY,
    arguments.height.getD settings.world.height⟩
  view :=
    { settings.view with
      radius := arguments.radius.getD settings.view.radius }
  scheduler := settings.scheduler
  light := ⟨arguments.cacheEntries.getD settings.light.cacheEntries,
    arguments.workerThreads.getD settings.light.workerThreads⟩
  logLevel := arguments.logLevel.getD settings.logLevel

end Arguments

end VoxelRelay
