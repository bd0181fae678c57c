import VoxelRelay.Notation.Basic

/-!
# Numbers in the notation

An integer has an optional sign, an optional base (`0b`, `0o` or `0x`), digits
that may be divided by underscores, and an optional type at its end.  A
fraction has a point or an exponent.  Two points in a row belong to no number,
since they stand between the ends of a range.
-/

namespace VoxelRelay.Notation

/-- The value of a hexadecimal digit. -/
def hexValue? (c : Char) : Option Nat :=
  if '0' ≤ c ∧ c ≤ '9' then some (c.toNat - '0'.toNat)
  else if 'a' ≤ c ∧ c ≤ 'f' then some (c.toNat - 'a'.toNat + 10)
  else if 'A' ≤ c ∧ c ≤ 'F' then some (c.toNat - 'A'.toNat + 10)
  else none

/-- The value of digits in a base; underscores among them count for nothing. -/
def digitsValue? (base : Nat) (digits : List Char) : Option Nat :=
  (digits.filter (· ≠ '_')).foldlM (fun value c => do
    let digit ← hexValue? c
    guard (digit < base)
    return value * base + digit) 0

/-! ## Integers -/

/-- The types of integers with their bounds. -/
def integerTypes : List (String × Int × Int) :=
  [8, 16, 32, 64].flatMap fun width : Nat =>
    let half : Int := (1 <<< (width - 1) : Nat)
    [("i" ++ toString width, (-half, half - 1)),
      ("u" ++ toString width, (0, 2 * half - 1))]

/-- The bounds of a type of integers. -/
def boundsOf? (type : String) : Option (Int × Int) := integerTypes.lookup type

/-- An integer as it is written. -/
structure Numeral where
  negative : Bool
  base : Nat
  digits : List Char
  /-- The type at its end. -/
  type : Option String

/-- The value of a numeral, if its digits have one. -/
def Numeral.value? (numeral : Numeral) : Option Int :=
  (digitsValue? numeral.base numeral.digits).map fun size =>
    if numeral.negative then -(size : Int) else size

/-- Takes a sign if there is one, and says whether it is negative. -/
def sign : Reader Bool := do
  if ← accept "-" then return true
  let _ ← accept "+"
  return false

/-- Takes the mark of a base, ten when there is none. -/
def base : Reader Nat := do
  if ← accept "0x" then return 16
  if ← accept "0b" then return 2
  if ← accept "0o" then return 8
  return 10

/-- Takes the type at the end of an integer, if there is one. -/
def typeSuffix : Reader (Option String) :=
  (integerTypes.map (·.1)).findM? acceptWord

/-- Takes an integer as it is written; an underscore may not come first. -/
def numeral : Reader Numeral := do
  let negative ← sign
  let base ← base
  let digits ← takeWhile fun c => (hexValue? c).isSome || c = '_'
  guard (digits.head?.any (· ≠ '_'))
  return ⟨negative, base, digits, ← typeSuffix⟩

/--
Takes an integer of a type; if it names its type, that has to be the same.
-/
def integer (type : String) : Reader Int := do
  let numeral ← numeral
  guard (numeral.type.all (· == type))
  let value ← numeral.value?
  let (low, high) ← boundsOf? type
  guard (low ≤ value ∧ value ≤ high)
  return value

/-! ## Fractions -/

/-- Whether a character may stand in a fraction. -/
def isFractionChar (c : Char) : Bool :=
  c.isDigit || c = 'e' || c = 'E' || c = '.' || c = '+' || c = '-' || c = '_'

/-- The characters from the front of a text that may belong to a fraction. -/
def fractionRun : List Char → List Char
  | '.' :: '.' :: _ => []
  | c :: rest => if isFractionChar c then c :: fractionRun rest else []
  | [] => []

/--
Drops the underscores from a fraction.  They may follow a digit or an exponent
sign, but neither come first nor directly follow the point.
-/
def dropUnderscores (allowed : Bool) : List Char → Option (List Char)
  | [] => some []
  | '_' :: rest => if allowed then dropUnderscores true rest else none
  | c :: rest =>
      let next := c ≠ '.' && (allowed || c.isDigit || c = 'e' || c = 'E')
      (dropUnderscores next rest).map (c :: ·)

/-- Whether a text is one or more digits. -/
def isDigits (text : List Char) : Bool :=
  !text.isEmpty && text.all Char.isDigit

/-- Drops a sign from the front of a text. -/
def dropSign : List Char → List Char
  | '+' :: rest => rest
  | '-' :: rest => rest
  | text => text

/-- Whether a text is a decimal number with an optional point and exponent. -/
def isDecimal (text : List Char) : Bool :=
  let unsigned := dropSign text
  let whole := unsigned.takeWhile Char.isDigit
  let afterWhole := unsigned.dropWhile Char.isDigit
  let (part, afterPart) :=
    match afterWhole with
    | '.' :: rest =>
        (rest.takeWhile Char.isDigit, rest.dropWhile Char.isDigit)
    | _ => ([], afterWhole)
  let exponentFits :=
    match afterPart with
    | [] => true
    | c :: rest => (c = 'e' || c = 'E') && isDigits (dropSign rest)
  !(whole.isEmpty && part.isEmpty) && exponentFits

/-- The words for numbers without digits. -/
def wordNumbers : List String :=
  ["inf", "NaN"].flatMap fun word => ["", "f32", "f64"].map fun type =>
    word ++ type

/-- Takes a fraction, of which only the form matters. -/
def fraction : Reader Unit := do
  if ← acceptAny
      (wordNumbers ++ wordNumbers.flatMap fun word =>
        ["+" ++ word, "-" ++ word]) then
    return
  let written := fractionRun (← get)
  modify (·.drop written.length)
  guard (((dropUnderscores false written).map isDecimal).getD false)
  let _ ← acceptAny ["f32", "f64"]

/-- Whether more of the text can be a fraction than can be an integer. -/
def seesFraction : Reader Bool := fun text =>
  let unsigned := dropSign text
  let asFraction := fractionRun unsigned
  let asInteger := unsigned.takeWhile fun c => (hexValue? c).isSome || c = '_'
  some (asInteger.length < asFraction.length, text)

/--
Takes an integer of any type, of which only the form matters: one without a
type may have any of the types, and one in base ten may also be too great for
all of them.
-/
def anyInteger : Reader Unit := do
  let numeral ← numeral
  let value ← numeral.value?
  match numeral.type with
  | some type =>
      let (low, high) ← boundsOf? type
      guard (low ≤ value ∧ value ≤ high)
  | none =>
      guard
        (numeral.base = 10 ∨ Int64.minValue.toInt ≤ value ∧
          value < UInt64.size)

/-- Takes a number of any kind. -/
def anyNumber : Reader Unit := do
  if ← seesFraction then fraction
  else
    let start ← get
    anyInteger <|> do
      set start
      fraction

end VoxelRelay.Notation
