/-!
# Lines of the log

A line has a level, the part of the program that it comes from, a message and
named values.
-/

namespace VoxelRelay.Log

/-- How much a line matters; the first level matters most. -/
inductive Level where
  | error
  | warn
  | info
  | debug
  | trace
deriving DecidableEq, Repr

namespace Level

/-- All levels, the one that matters most first. -/
def all : List Level := [error, warn, info, debug, trace]

/-- The place of a level in `all`, counted from one. -/
def rank : Level → Nat
  | error => 1
  | warn => 2
  | info => 3
  | debug => 4
  | trace => 5

/-- The name of a level. -/
def name : Level → String
  | error => "ERROR"
  | warn => "WARN"
  | info => "INFO"
  | debug => "DEBUG"
  | trace => "TRACE"

end Level

/-- A line of the log. -/
structure Line where
  level : Level
  /-- The part of the program that wrote it. -/
  source : String
  message : String
  fields : List (String × String)
deriving DecidableEq, Repr

/-- Writes a line. -/
def Line.render (line : Line) : String :=
  line.level.name ++ " " ++ line.source ++ ": " ++ line.message ++
    String.join
      (line.fields.map fun (name, value) => " " ++ name ++ "=" ++ value)

end VoxelRelay.Log
