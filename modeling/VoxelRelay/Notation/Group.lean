import VoxelRelay.Notation.Quotation

/-!
# Groups of items

Items that are passed over stand in brackets, with commas between them.  In
parentheses they may have names.  What an optional value holds may be a group
of its own without parentheses; which kind of group it is shows only further
on in the text.
-/

namespace VoxelRelay.Notation

/-- Takes the items of a container, each by the same reader. -/
def each (close : String) (item : Reader Unit) : Reader Unit :=
  items close (fun _ => item) ()

/-- Takes an item after its name. -/
def named (item : Reader Unit) : Reader Unit := do
  let _ ← identifier
  gap
  symbol ":"
  item

/-- Takes an entry of a map. -/
def entry (item : Reader Unit) : Reader Unit := do
  item
  gap
  symbol ":"
  item

/-- Whether the item that begins here has a name. -/
def seesName : Reader Bool := ahead do
  match ← identifier? with
  | none => return false
  | some _ => do
      gap
      sees ":"

/-- Takes what stands in parentheses: named items, or items without names. -/
def parenthesized (item : Reader Unit) : Reader Unit := do
  expect "("
  let isNamed ← ahead do
    gap
    seesName
  each ")" (if isNamed then named item else item)

/-! ## Groups without parentheses -/

/-- Takes a character and a text, as far as they are there. -/
def literals : Reader Unit := do
  character <|> pure ()
  (do let _ ← text) <|> pure ()
  byteText <|> pure ()

/--
Whether a comma with an item after it stands before the closing bracket of
this group; `level` counts the brackets open within it.
-/
def seesMore : Nat → Nat → Reader Bool
  | 0, _ => failure
  | steps + 1, level => do
      gap
      literals
      match ← next with
      | '(' | '[' | '\x7b' => seesMore steps (level + 1)
      | ')' | ']' | '\x7d' =>
          match level with
          | 0 => return false
          | level + 1 => seesMore steps level
      | ',' =>
          if level = 0 then
            gap
            return !(← sees ")")
          else seesMore steps level
      | _ => seesMore steps level

/-- What stands in the parentheses of an optional value. -/
inductive Body where
  | empty
  /-- One value. -/
  | single
  /-- Items of a group without names. -/
  | items
  /-- Items of a group with names. -/
  | named
deriving DecidableEq, Repr

/-- Looks ahead for what stands in parentheses after the opening one. -/
def seesBody : Reader Body := ahead do
  if ← sees ")" then return .empty
  if (← identifier?).isSome then
    gap
    if ← sees ":" then return .named
    if ← sees ")" then return .single
    if ← accept "," then
      gap
      return if ← sees ")" then .single else .items
  return if ← seesMore ((← get).length + 1) 0 then .items else .single

end VoxelRelay.Notation
