import VoxelRelay.Notation.Quotation

/-!
# Extensions of the notation

A text may begin with attributes, `#![…]`, in any number and order.  `enable`
asks for extensions by their names; `type` and `schema` say what the text
describes, which nobody checks.
-/

namespace VoxelRelay.Notation

/-- The extensions that a text asks for. -/
structure Extensions where
  /-- An optional value may stand without the parentheses around it. -/
  implicitSome : Bool
  /--
  The parts of a record may stand in the parentheses of an optional value
  without their own.
  -/
  unwrapVariants : Bool
  /-- Every record that is not passed over has to be preceded by its name. -/
  explicitNames : Bool
deriving DecidableEq, Repr

namespace Extensions

/-- The notation as it is. -/
def plain : Extensions := ⟨false, false, false⟩

/--
Asks for one more extension; the names of records of a single part are
optional as it is.
-/
def enable? (asked : Extensions) : String → Option Extensions
  | "unwrap_newtypes" => some asked
  | "implicit_some" => some { asked with implicitSome := true }
  | "unwrap_variant_newtypes" => some { asked with unwrapVariants := true }
  | "explicit_struct_names" => some { asked with explicitNames := true }
  | _ => none

end Extensions

/--
Takes the names of extensions, divided by commas, of which the last may be
followed by one.
-/
def extensionNames : Nat → Extensions → Reader Extensions
  | 0, _ => failure
  | steps + 1, asked => do
      let asked ← asked.enable? (← identifier)
      gap
      if ← accept "," then
        gap
        if ← seesLetter then extensionNames steps asked else return asked
      else return asked

/-- Takes what an attribute says between its brackets. -/
def attributeBody (asked : Extensions) : Reader Extensions := do
  if ← accept "enable" then
    gap
    symbol "("
    let asked ← extensionNames ((← get).length + 1) asked
    gap
    symbol ")"
    return asked
  else
    if !(← accept "type") then expect "schema"
    gap
    symbol "="
    let _ ← text
    gap
    return asked

/-- Takes the attributes at the beginning of a text. -/
def attributes : Nat → Extensions → Reader Extensions
  | 0, _ => failure
  | steps + 1, asked => do
      if ← sees "#" then
        ["#", "!", "["].forM symbol
        let asked ← attributeBody asked
        symbol "]"
        attributes steps asked
      else return asked

end VoxelRelay.Notation
