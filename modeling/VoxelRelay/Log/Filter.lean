import VoxelRelay.Log.Line
import VoxelRelay.Settings.Basic
import VoxelRelay.Text.Identifier
import VoxelRelay.Text.Integer
import VoxelRelay.Text.Space

/-!
# Which lines are shown

A filter is a list of rules divided by commas.  A rule names a level, a
source, or both as in `source=level`, and speaks of the sources whose names
begin with its own.  Braces within brackets after the source, before the
level, name a value that a line has to carry as well.  Of the rules that speak
of a line the one with the longest source decides, then one that asks for a
value before one that does not.  Rules that make no sense are passed over, and
so are rules about spans, to which no line belongs; where no rule is left only
errors are shown.
-/

namespace VoxelRelay.Log

/-- The lines that are shown, by level: none of them, or those up to a level. -/
abbrev Threshold := Option Level

/--
Reads a threshold by its name, in letters of either case, or by its number.
-/
def threshold? (text : String) : Option Threshold :=
  if text.toLower = "off" ∨ Text.natural? text = some 0 then some none
  else
    (Level.all.find? fun level =>
      level.name.toLower == text.toLower || some level.rank ==
        Text.natural? text).map some

/-- A rule of a filter. -/
structure Rule where
  /--
  What the names of sources have to begin with; every name when it is empty.
  -/
  source : String
  /-- The name of a value that a line has to carry. -/
  field : Option String
  threshold : Threshold
deriving DecidableEq, Repr

namespace Rule

/-- Whether a rule may begin with a character, brackets apart. -/
def mayBegin (c : Char) : Bool :=
  c = '-' || c = ':' || Text.continuesIdentifier c

/--
Reads the level at the end of a rule; everything is shown when there is none.
-/
def thresholdAtEnd? : List Char → Option Threshold
  | '=' :: level =>
      if level.isEmpty then some (some .trace)
      else threshold? (String.ofList level)
  | rest => if rest.all Text.isSpace then some (some .trace) else none

/--
Reads the name of a value after the opening bracket, and what follows the
closing one.
-/
def fieldInBrackets? : List Char → Option (String × List Char)
  | '\x7b' :: rest =>
      let name := rest.takeWhile (· ≠ '\x7d')
      match rest.drop name.length with
      | '\x7d' :: ']' :: rest =>
          if name.isEmpty || name.contains '=' then none
          else some (String.ofList name, rest)
      | _ => none
  | _ => none

/--
Reads a rule; a single word is a level if there is one of that name, and a
source if not.
-/
def ofString? (text : String) : Option Rule := do
  let source := text.toList.takeWhile fun c => c ≠ '=' && c ≠ '['
  let rest := text.toList.drop source.length
  guard
    (source.head?.all mayBegin && (!source.isEmpty || rest.head? = some '['))
  match rest with
  | [] =>
      match threshold? text with
      | some threshold => return ⟨"", none, threshold⟩
      | none => return ⟨text, none, some .trace⟩
  | '[' :: rest => do
      let (field, rest) ← fieldInBrackets? rest
      return ⟨String.ofList source, some field, ← thresholdAtEnd? rest⟩
  | rest => return ⟨String.ofList source, none, ← thresholdAtEnd? rest⟩

/-- Whether a rule speaks of a source. -/
def coversSource
    (rule : Rule)
    (source : String) : Bool := rule.source.isPrefixOf source

/-- Whether a rule speaks of a line; its message counts as one of its values. -/
def covers (rule : Rule) (line : Line) : Bool :=
  rule.coversSource line.source &&
    rule.field.all fun name =>
      name == "message" || line.fields.any (·.1 == name)

/-- Whether a rule that speaks of a line shows it. -/
def shows (rule : Rule) (level : Level) : Bool :=
  rule.threshold.any fun greatest => level.rank ≤ greatest.rank

/--
Whether a rule leaves the decision on a line to a later rule that speaks of it
too.
-/
def yieldsTo (rule later : Rule) : Bool :=
  rule.source.length < later.source.length ||
    (rule.source.length == later.source.length &&
      match rule.field, later.field with
      | none, _ => true
      | some _, none => false
      | some name, some other => !(other < name))

end Rule

/-- A filter is a list of rules. -/
abbrev Filter := List Rule

namespace Filter

/-- The filter when nothing else is said. -/
def standard : String := "info"

/-- The filter that settings ask for. -/
def ofSettings (settings : Option Settings) : String :=
  match settings with
  | some settings =>
      if settings.logLevel.isEmpty then standard else settings.logLevel
  | none => standard

/-- Reads a filter. -/
def parse (text : String) : Filter :=
  let rules := (text.splitOn ",").filterMap Rule.ofString?
  if rules.isEmpty then [⟨"", none, some .error⟩] else rules

/--
The rule that decides on a line: of those that speak of it, the one that
yields to no other.
-/
def deciding? (filter : Filter) (line : Line) : Option Rule :=
  (filter.filter (·.covers line)).foldl (fun best rule =>
    match best with
    | some standing => if standing.yieldsTo rule then some rule else best
    | none => some rule) none

/-- Whether a filter shows a line. -/
def admits (filter : Filter) (line : Line) : Bool :=
  (filter.deciding? line).any (·.shows line.level)

/-- Whether a filter may show a line of a source on some level. -/
def mayAdmit (filter : Filter) (level : Level) (source : String) : Bool :=
  filter.any fun rule => rule.coversSource source && rule.shows level

end Filter

end VoxelRelay.Log
