import VoxelRelay.Settings.Basic
import VoxelRelay.Text.Concealed

/-!
# Writing settings

Settings are written as a record of records, one field a line, indented by
four spaces a level.  In texts, quotes and whatever leaves no mark of its own
are escaped.
-/

namespace VoxelRelay.Settings

/-- Writes one character of a text. -/
def escape (c : Char) : List Char :=
  match c with
  | '\x00' => ['\\', '0']
  | '\t' => ['\\', 't']
  | '\r' => ['\\', 'r']
  | '\n' => ['\\', 'n']
  | '\'' => ['\\', '\'']
  | '"' => ['\\', '"']
  | '\\' => ['\\', '\\']
  | c =>
      if Text.concealed.contains c then
        ['\\', 'u', '\x7b'] ++ Nat.toDigits 16 c.toNat ++ ['\x7d']
      else [c]

/-- Writes a text between quotes. -/
def quote (text : String) : String :=
  String.ofList ('"' :: (text.toList.flatMap escape ++ ['"']))

/-- Writes the fields of a record, each on a line of its own. -/
def fieldLines (indent : String) (fields : List (String × String)) : String :=
  String.join
    (fields.map fun (name, value) => indent ++ name ++ ": " ++ value ++ ",\n")

/-- Writes a record within the settings. -/
def sectionText (fields : List (String × String)) : String :=
  "(\n" ++ fieldLines "        " fields ++ "    )"

/-- Writes a truth value. -/
def truthText (value : Bool) : String := if value then "true" else "false"

/-- Writes settings. -/
def render (settings : Settings) : String :=
  let world := [("min_y", toString settings.world.minY.toInt),
    ("height", toString settings.world.height.toNat)]
  let view := [("radius", toString settings.view.radius.toNat),
    ("recenter_outside_render",
      truthText settings.view.recenterOutsideRender)]
  let scheduler :=
    [("chunks_per_tick", toString settings.scheduler.columnsPerTick),
      ("light_updates_per_tick",
        toString settings.scheduler.lightUpdatesPerTick),
      ("sub_chunk_batch_size", toString settings.scheduler.requestBatchSize)]
  let light := [("cache_entries", toString settings.light.cacheEntries),
    ("worker_threads", toString settings.light.workerThreads)]
  let debug := [("log_level", quote settings.logLevel)]
  "(\n" ++ fieldLines "    "
    [("world", sectionText world), ("view", sectionText view),
    ("scheduler", sectionText scheduler), ("light", sectionText light),
    ("debug", sectionText debug)] ++ ")"

end VoxelRelay.Settings
