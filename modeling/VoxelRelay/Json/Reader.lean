import VoxelRelay.Json.Form

/-!
# Reading the data format

A form is read from the front of a list of characters; what is left is handed
on.  The containers that are still open are kept in a list, so a form may nest
as deep as it likes; a value may nest 127 deep.  A number with neither point
nor exponent is an integer when it fits 64 bits; any other number keeps the
leading digits that fit 64 bits and is scaled by its power of ten in double
precision, and has no value when that overflows.
-/

namespace VoxelRelay.Json.Reader

/-- What is left of the text after something was read. -/
abbrev Rest := List Char

/--
Drops the blanks of the format: space, tabulator, line feed, carriage return.
-/
def skipBlank (text : Rest) : Rest :=
  text.dropWhile fun c => c = ' ' || c = '\n' || c = '\t' || c = '\r'

/-! ## Numbers -/

/-- The greatest 64-bit word. -/
def maxWord : Nat := UInt64.size - 1

/-- A run of decimal digits and what follows it. -/
def digitRun (text : Rest) : List Nat × Rest :=
  ((text.takeWhile Char.isDigit).map (fun c => c.toNat - '0'.toNat),
    text.dropWhile Char.isDigit)

/--
Appends digits to a significand while it fits 64 bits.  Returns the
significand with the number of digits appended; from the first digit that does
not fit on, none is appended.
-/
def appendDigits (significand : Nat) : List Nat → Nat × Nat
  | [] => (significand, 0)
  | digit :: rest =>
      if maxWord < significand * 10 + digit then (significand, 0)
      else
        let (result, count) := appendDigits (significand * 10 + digit) rest
        (result, count + 1)

/--
Scales by a power of ten in double precision, in steps of at most 308 places.
-/
def scaleFloat
    (value : Float)
    (exponent : Int) : Nat → Option Float
  | 0 => some value
  | steps + 1 =>
      if exponent.natAbs ≤ 308 then
        let power := Float.ofScientific 1 false exponent.natAbs
        if 0 ≤ exponent then
          let product := value * power
          if product.isInf then none else some product
        else some (value / power)
      else if value == 0 then some value
      else if 0 ≤ exponent then none
      else scaleFloat (value / 1e308) (exponent + 308) steps

/--
The fraction `significand * 10 ^ exponent` with its sign; `none` when it
overflows.  Four divisions by the greatest power of ten take any 64-bit
significand to zero, which bounds the steps.
-/
def fractionOfParts
    (negative : Bool)
    (significand : Nat)
    (exponent : Int) : Option Number :=
  (scaleFloat significand.toUInt64.toFloat exponent 8).map fun value =>
    .fraction (if negative then -value else value)

/--
The integer with the given sign, or a fraction when it has no integer form.
-/
def integerOfParts (negative : Bool) (significand : Nat) : Number :=
  if !negative then .integer significand
  else if significand = 0 ∨ -(significand : Int) < Int64.minValue.toInt then
    .fraction (-significand.toUInt64.toFloat)
  else .integer (-significand)

/-- A number as it is written. -/
structure Numeral where
  negative : Bool
  /-- The digits before the point. -/
  whole : List Nat
  /-- The digits after the point, if there is one. -/
  part : Option (List Nat)
  exponent : Option Int

/-- The value of a numeral; `none` when it overflows. -/
def Numeral.value? (numeral : Numeral) : Option Number :=
  let (significand, count) := appendDigits 0 numeral.whole
  let dropped := numeral.whole.length - count
  match numeral.part, numeral.exponent with
  | none, none =>
      if dropped = 0 then some (integerOfParts numeral.negative significand)
      else fractionOfParts numeral.negative significand dropped
  | part, exponent =>
      let (significand, count) := appendDigits significand (part.getD [])
      fractionOfParts numeral.negative significand
        ((dropped : Int) - count + exponent.getD 0)

/-- Reads the digits after the point, if there is one. -/
def fractionPart : Rest → Option (Option (List Nat) × Rest)
  | '.' :: rest =>
      match digitRun rest with
      | ([], _) => none
      | (run, rest) => some (some run, rest)
  | text => some (none, text)

/-- Reads the digits of an exponent after its letter. -/
def exponentDigits (text : Rest) : Option (Int × Rest) :=
  let (negative, digits) :=
    match text with
    | '+' :: rest => (false, rest)
    | '-' :: rest => (true, rest)
    | _ => (false, text)
  match digitRun digits with
  | ([], _) => none
  | (run, rest) =>
      let size : Nat := run.foldl (fun value digit => value * 10 + digit) 0
      some (if negative then -(size : Int) else size, rest)

/-- Reads the exponent, if there is one. -/
def exponentPart : Rest → Option (Option Int × Rest)
  | 'e' :: rest | 'E' :: rest =>
      (exponentDigits rest).map fun (size, rest) => (some size, rest)
  | text => some (none, text)

/--
Reads a number after its sign; no digit may follow a zero that comes first.
-/
def unsignedNumber
    (negative : Bool)
    (text : Rest) : Option (Numeral × Rest) := do
  match digitRun text with
  | ([], _) => none
  | (0 :: _ :: _, _) => none
  | (whole, rest) => do
      let (part, rest) ← fractionPart rest
      let (exponent, rest) ← exponentPart rest
      return (⟨negative, whole, part, exponent⟩, rest)

/-- Reads a number. -/
def number (text : Rest) : Option (Numeral × Rest) :=
  match text with
  | '-' :: rest => unsignedNumber true rest
  | _ => unsignedNumber false text

/-! ## Strings -/

/-- The value of a hexadecimal digit. -/
def hexDigit? (c : Char) : Option Nat :=
  if '0' ≤ c ∧ c ≤ '9' then some (c.toNat - '0'.toNat)
  else if 'a' ≤ c ∧ c ≤ 'f' then some (c.toNat - 'a'.toNat + 10)
  else if 'A' ≤ c ∧ c ≤ 'F' then some (c.toNat - 'A'.toNat + 10)
  else none

/-- The value of four hexadecimal digits. -/
def hexUnit? (a b c d : Char) : Option Nat := do
  return (((← hexDigit? a) * 16 + (← hexDigit? b)) * 16 + (← hexDigit? c)) *
    16 + (← hexDigit? d)

/-- The character that a one-letter escape stands for. -/
def simpleEscape? : Char → Option Char
  | '"' => some '"'
  | '\\' => some '\\'
  | '/' => some '/'
  | 'b' => some '\x08'
  | 'f' => some '\x0c'
  | 'n' => some '\n'
  | 'r' => some '\r'
  | 't' => some '\t'
  | _ => none

/--
A part of a string: a character, or a unit of UTF-16 that is written by its
number.
-/
inductive Piece where
  | char (value : Char)
  | unit (value : Nat)

/-- Reads the parts of a string after its opening quote. -/
def pieces (read : List Piece) : Rest → Option (List Piece × Rest)
  | '"' :: rest => some (read.reverse, rest)
  | '\\' :: 'u' :: a :: b :: c :: d :: rest =>
      match hexUnit? a b c d with
      | none => none
      | some unit => pieces (.unit unit :: read) rest
  | '\\' :: c :: rest =>
      match simpleEscape? c with
      | none => none
      | some escaped => pieces (.char escaped :: read) rest
  | c :: rest =>
      if c.toNat < 0x20 ∨ c = '\\' then none
      else pieces (.char c :: read) rest
  | [] => none

/-- Whether a unit is the first half of a surrogate pair. -/
def isFirstHalf (unit : Nat) : Bool := 0xD800 ≤ unit && unit < 0xDC00

/-- Whether a unit is the second half of a surrogate pair. -/
def isSecondHalf (unit : Nat) : Bool := 0xDC00 ≤ unit && unit < 0xE000

/--
The string with the given parts, if every half of a surrogate pair has its
other half; `high` holds a first half whose second half has to come next.
-/
def assemble
    (high : Option Nat)
    (read : List Char) : List Piece → Option String
  | [] => if high.isSome then none else some (String.ofList read.reverse)
  | .char c :: rest =>
      if high.isSome then none else assemble none (c :: read) rest
  | .unit unit :: rest =>
      match high with
      | some first =>
          if isSecondHalf unit then
            assemble none
              (Char.ofNat
                (0x10000 + (first - 0xD800) * 0x400 + (unit - 0xDC00)) ::
                  read) rest
          else none
      | none =>
          if isSecondHalf unit then none
          else if isFirstHalf unit then assemble (some unit) read rest
          else assemble none (Char.ofNat unit :: read) rest

/-- Reads a string after its opening quote. -/
def string (text : Rest) : Option (Option String × Rest) :=
  (pieces [] text).map fun (parts, rest) => (assemble none [] parts, rest)

/-! ## Values -/

/-- Reads a value that is no container. -/
def scalar : Rest → Option (Form × Rest)
  | 'n' :: 'u' :: 'l' :: 'l' :: rest => some (.null, rest)
  | 't' :: 'r' :: 'u' :: 'e' :: rest => some (.bool true, rest)
  | 'f' :: 'a' :: 'l' :: 's' :: 'e' :: rest => some (.bool false, rest)
  | '"' :: rest =>
      (string rest).map fun (value, rest) => (.string value, rest)
  | text =>
      (number text).map fun (numeral, rest) => (.number numeral.value?, rest)

/-- Reads the name of a field with the colon after it. -/
def fieldName : Rest → Option (Option String × Rest)
  | '"' :: rest =>
      match string rest with
      | none => none
      | some (name, rest) =>
          match skipBlank rest with
          | ':' :: rest => some (name, rest)
          | _ => none
  | _ => none

/--
A container whose end has not been read yet, with its items so far, the last
one first.
-/
inductive Unclosed where
  | array (items : List Form)
  /-- An object of which the value of a field comes next. -/
  | object (fields : List (Option String × Form)) (name : Option String)

/-- What comes next when a part of a text has been read. -/
inductive Next where
  /-- The text goes on after a whole value. -/
  | done (form : Form) (rest : Rest)
  /--
  Another value has to follow, within the given containers, the innermost
  first.
  -/
  | value (within : List Unclosed) (rest : Rest)

/--
Puts a value into the innermost container, and closes the containers that end
with it.
-/
def afterValue (form : Form) : List Unclosed → Rest → Option Next
  | [], rest => some (.done form rest)
  | .array items :: outer, rest =>
      match skipBlank rest with
      | ',' :: rest => some (.value (.array (form :: items) :: outer) rest)
      | ']' :: rest => afterValue (.array (form :: items).reverse) outer rest
      | _ => none
  | .object fields name :: outer, rest =>
      match skipBlank rest with
      | ',' :: rest => (fieldName (skipBlank rest)).map fun (next, rest) =>
          .value (.object ((name, form) :: fields) next :: outer) rest
      | '\x7d' :: rest =>
          afterValue (.object ((name, form) :: fields).reverse) outer rest
      | _ => none

/--
Reads a whole scalar, an empty container, or the beginning of another
container.
-/
def beginValue (within : List Unclosed) : Rest → Option Next
  | '[' :: rest =>
      match skipBlank rest with
      | ']' :: rest => afterValue (.array []) within rest
      | rest => some (.value (.array [] :: within) rest)
  | '\x7b' :: rest =>
      match skipBlank rest with
      | '\x7d' :: rest => afterValue (.object []) within rest
      | rest =>
          (fieldName rest).map fun (name, rest) =>
            .value (.object [] name :: within) rest
  | text =>
      match scalar text with
      | none => none
      | some (form, rest) => afterValue form within rest

/--
Reads a value within containers; every step takes a character, which bounds
their number.
-/
def valueWithin : Nat → List Unclosed → Rest → Option (Form × Rest)
  | 0, _, _ => none
  | steps + 1, within, text =>
      match beginValue within (skipBlank text) with
      | none => none
      | some (.done form rest) => some (form, rest)
      | some (.value within rest) => valueWithin steps within rest

end VoxelRelay.Json.Reader

namespace VoxelRelay.Json

open Reader in
/-- Reads a text that holds one value and nothing else but blanks. -/
def Form.parse? (text : String) : Option Form :=
  let start := text.toList
  match valueWithin (start.length + 1) [] start with
  | some (form, rest) => if (skipBlank rest).isEmpty then some form else none
  | none => none

/-- The greatest depth to which containers may nest in a value that is read. -/
def maxDepth : Nat := 127

/-- Reads a value from a text that holds it and nothing else but blanks. -/
def parse? (text : String) : Option Json :=
  (Form.parse? text).bind (·.value? maxDepth)

end VoxelRelay.Json
