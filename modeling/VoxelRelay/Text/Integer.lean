/-!
# Integers in texts

Integers are written in decimal digits, perhaps after a sign.
-/

namespace VoxelRelay.Text

/-- Reads one or more digits as a number. -/
def digits? (text : List Char) : Option Nat :=
  if text.isEmpty || !text.all Char.isDigit then none
  else some (text.foldl (fun value c => value * 10 + (c.toNat - '0'.toNat)) 0)

/-- Reads a natural number, which may have a plus sign. -/
def natural? (text : String) : Option Nat :=
  match text.toList with
  | '+' :: rest => digits? rest
  | unsigned => digits? unsigned

/-- Reads an integer, which may have a sign. -/
def integer? (text : String) : Option Int :=
  match text.toList with
  | '-' :: rest => (digits? rest).map fun size => -(size : Int)
  | _ => (natural? text).map (↑·)

end VoxelRelay.Text
