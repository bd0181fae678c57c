import VoxelRelay.Notation.Extension
import VoxelRelay.Notation.Group
import VoxelRelay.Notation.Range

/-!
# Values that are passed over

The value of a field that nobody knows is taken and forgotten, as long as it
is well-formed: a number, a range, a text, a record, a list, a map or an
optional value.  Each level of nesting costs one unit of depth for the
container and one for the item in it.
-/

namespace VoxelRelay.Notation

/-- The words that are values, and the value without content. -/
def valueWord : Reader Bool := do
  if ← acceptAny ["true", "false", "None"] then return true
  if ← accept "()" then return true
  acceptAny wordNumbers

/--
The readers of the values within a value, as far as the depth allows: first of
those one unit deeper, then of those two units deeper, and so on.
-/
abbrev Inner := List (Reader Unit)

/-- Takes a value a number of units deeper than the one at hand. -/
def Inner.at
    (inner : Inner)
    (units : Nat) : Reader Unit := inner.getD (units - 1) failure

/-- Takes an optional value after its word. -/
def present (asked : Extensions) (inner : Inner) : Reader Unit := do
  gap
  if ← accept "(" then
    gap
    match ← if asked.unwrapVariants then seesBody else pure .single with
    | .empty => expect ")"
    | .items => each ")" (inner.at 3)
    | .named => each ")" (named (inner.at 3))
    | .single =>
        inner.at 1
        gap
        let _ ← accept ","
        gap
        expect ")"
  else
    guard asked.implicitSome
    inner.at 1

/-- Takes a value, given how the values within it are taken. -/
def valueWith (asked : Extensions) (inner : Inner) : Reader Unit := do
  if ← valueWord then return
  if ← acceptWord "Some" then
    guard !inner.isEmpty
    present asked inner
  else
    let name ← identifier?
    if name.isSome then gap
    match (← get).head? with
    | some '(' =>
        guard !inner.isEmpty
        parenthesized (inner.at 2)
    | first =>
        if name.isSome then return
        match first with
        | some '[' =>
            guard !inner.isEmpty
            expect "["
            each "]" (inner.at 2)
        | some '\x7b' =>
            guard !inner.isEmpty
            expect "\x7b"
            each "\x7d" (entry (inner.at 2))
        | some '"' | some 'r' => let _ ← text
        | some '\'' => character
        | some 'b' => if ← sees "b'" then numberOrRange else byteText
        | _ => numberOrRange

/-- The readers of the values within a value that may nest within the depth. -/
def innerOf (asked : Extensions) : Nat → Inner
  | 0 => []
  | depth + 1 =>
      let inner := innerOf asked depth
      valueWith asked inner :: inner

/-- Takes a value that nests within the depth, and forgets it. -/
def skipValue (asked : Extensions) (depth : Nat) : Reader Unit :=
  valueWith asked (innerOf asked depth)

end VoxelRelay.Notation
