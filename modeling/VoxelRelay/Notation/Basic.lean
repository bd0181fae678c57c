import VoxelRelay.Text.Identifier

/-!
# The notation of the settings file

Settings are written as records, `Name(field: value, …)`, with blanks and
comments anywhere between the parts.  A reader takes one part off the front of
the text or refuses the text; this module has the readers for blanks, symbols,
identifiers and lists of items, and a way to look ahead.

The readers that work through a list of unknown length count down from the
length of the text, since each step takes at least one character.
-/

namespace VoxelRelay.Notation

/-- A reader takes a part off the front of a text, or refuses the text. -/
abbrev Reader := StateT (List Char) Option

/-! ## Blanks and comments -/

/-- Whether a character is a blank. -/
def isBlank (c : Char) : Bool :=
  c = ' ' || c = '\t' || c = '\n' || c = '\r' || c = '\x0b' || c =
    '\x0c' || c = '\u0085' ||
    c = '\u200e' || c = '\u200f' || c = '\u2028' || c = '\u2029'

/-- Where in blanks and comments a text stands. -/
inductive Gap where
  /-- Between comments. -/
  | blank
  /-- In a comment that ends with its line. -/
  | line
  /-- In a bracketed comment, itself within `level` others. -/
  | bracketed (level : Nat)

/-- Drops blanks and comments; a bracketed comment has to be closed. -/
def Gap.skip : Gap → List Char → Option (List Char)
  | blank, '/' :: '/' :: rest => line.skip rest
  | blank, '/' :: '*' :: rest => (bracketed 0).skip rest
  | blank, '/' :: _ => none
  | blank, c :: rest =>
      if isBlank c then blank.skip rest else some (c :: rest)
  | blank, [] => some []
  | line, '\n' :: rest => blank.skip rest
  | line, _ :: rest => line.skip rest
  | line, [] => some []
  | bracketed level, '/' :: '*' :: rest => (bracketed (level + 1)).skip rest
  | bracketed 0, '*' :: '/' :: rest => blank.skip rest
  | bracketed (level + 1), '*' :: '/' :: rest => (bracketed level).skip rest
  | bracketed level, _ :: rest => (bracketed level).skip rest
  | bracketed _, [] => none

/-- Takes blanks and comments. -/
def gap : Reader Unit :=
  fun text => (Gap.blank.skip text).map fun rest => ((), rest)

/-! ## Symbols -/

/-- Takes one character. -/
def next : Reader Char
  | c :: rest => some (c, rest)
  | [] => none

/-- Takes characters as long as they belong to a class. -/
def takeWhile (belongs : Char → Bool) : Reader (List Char) := fun text =>
  some (text.takeWhile belongs, text.dropWhile belongs)

/-- Whether the text begins with a symbol. -/
def sees (symbol : String) : Reader Bool := fun text =>
  some (symbol.toList.isPrefixOf text, text)

/-- Takes a symbol if the text begins with it, and says whether it did. -/
def accept (symbol : String) : Reader Bool := do
  let found ← sees symbol
  if found then modify (·.drop symbol.length)
  return found

/-- Takes a symbol, which has to be there. -/
def expect (symbol : String) : Reader Unit := do
  guard (← accept symbol)

/-- Takes a symbol and what is blank after it. -/
def symbol (word : String) : Reader Unit := do
  expect word
  gap

/-- Runs a reader and goes back to where it began. -/
def ahead {α : Type} (reader : Reader α) : Reader α := fun text =>
  (reader text).map fun (value, _) => (value, text)

/-- Whether the text begins with a character that continues an identifier. -/
def seesLetter : Reader Bool := fun text =>
  some ((text.head?.map Text.continuesIdentifier).getD false, text)

/-- Takes a word, unless it is only the beginning of a longer one. -/
def acceptWord (word : String) : Reader Bool := do
  let start ← get
  if ← accept word then
    if ← seesLetter then
      set start
      return false
    else return true
  else return false

/-- Takes the first of some words that is there. -/
def acceptAny : List String → Reader Bool
  | [] => return false
  | word :: others => do
      if ← acceptWord word then return true else acceptAny others

/-! ## Identifiers -/

/-- Whether a character may stand in an identifier that is marked as raw. -/
def continuesRaw (c : Char) : Bool :=
  c = '.' || c = '+' || c = '-' || Text.continuesIdentifier c

/-- Whether a text in quotes begins here, which starts like an identifier. -/
def seesQuotation (openings : List String) : Reader Bool :=
  openings.anyM fun opening => sees opening

/-- Takes an identifier, if there is one; a raw one is marked by `r#`. -/
def identifier? : Reader (Option String) := do
  if ← seesQuotation ["b\"", "b'", "br#", "br\"", "r\"", "r#\"", "r##"] then
    return none
  if ← sees "r#" then
    let start ← get
    modify (·.drop 2)
    let name ← takeWhile continuesRaw
    if name.isEmpty then
      set start
      return none
    else return some (String.ofList name)
  else if (← get).head?.any Text.beginsIdentifier then
    return some
      (String.ofList ((← next) :: (← takeWhile Text.continuesIdentifier)))
  else return none

/--
Takes an identifier, after which no character may stand that only raw ones may
hold.
-/
def identifier : Reader String := do
  let raw ← sees "r#"
  let name ← (← identifier?)
  if raw then return name
  guard (!((← get).head?.any continuesRaw))
  return name

/-! ## Items -/

/-- Works through items that are divided by commas, up to a closing symbol. -/
def itemsWithin
    {σ : Type}
    (close : String)
    (item : σ → Reader σ) : Nat → σ → Reader σ
  | 0, _ => failure
  | steps + 1, state => do
      gap
      if ← accept close then return state
      let state ← item state
      gap
      if ← accept "," then itemsWithin close item steps state
      else do
        expect close
        return state

/-- Works through the items of a list after its opening symbol. -/
def items
    {σ : Type}
    (close : String)
    (item : σ → Reader σ)
    (state : σ) : Reader σ := do
  itemsWithin close item ((← get).length + 1) state

end VoxelRelay.Notation
