import VoxelRelay.Notation.Numeral

/-!
# Texts in the notation

A text stands in quotes, with escapes for what cannot stand for itself, or as
a raw text between quotes and number signs, where everything stands for
itself.  A backslash at the end of a line joins the line to the next one,
without the blanks that begin it.
-/

namespace VoxelRelay.Notation

/-- Takes two hexadecimal digits. -/
def hexByte : Reader UInt8 := do
  let high ← hexValue? (← next)
  let low ← hexValue? (← next)
  return (high * 16 + low).toUInt8

/-- The character that a list of bytes encodes, if they encode exactly one. -/
def decodeBytes (bytes : List UInt8) : Option Char := do
  match (← String.fromUTF8? ⟨bytes.toArray⟩).toList with
  | [c] => some c
  | _ => none

/--
Takes the further bytes of a character of which the given bytes were taken.
-/
def furtherBytes : Nat → List UInt8 → Reader Char
  | steps, bytes =>
      match decodeBytes bytes, steps with
      | some c, _ => return c
      | none, 0 => failure
      | none, steps + 1 => do
          expect "\\x"
          furtherBytes steps (bytes ++ [← hexByte])

/--
Takes the digits of a code point, at most the given number, up to the closing
brace.
-/
def codePoint : Nat → List Char → Reader Nat
  | steps, digits => do
      if !digits.isEmpty then
        if ← accept "\x7d" then return ← digitsValue? 16 digits
      match steps with
      | 0 => failure
      | steps + 1 => do
          let c ← next
          guard (hexValue? c).isSome
          codePoint steps (digits ++ [c])

/-- What an escaped character is for. -/
inductive EscapeUse where
  /-- Part of a text. -/
  | text
  /-- A single character. -/
  | char
  /-- Part of a list of bytes, where each byte stands alone. -/
  | bytes
  /-- A single byte. -/
  | byte
deriving DecidableEq, Repr

/-- Takes an escape after its backslash. -/
def escape (purpose : EscapeUse) : Reader Char := do
  match ← next with
  | '\'' => return '\''
  | '"' => return '"'
  | '\\' => return '\\'
  | 'n' => return '\n'
  | 'r' => return '\r'
  | 't' => return '\t'
  | '0' => return '\x00'
  | 'x' =>
      let byte ← hexByte
      if purpose = .bytes ∨ purpose = .byte then return Char.ofNat byte.toNat
      furtherBytes (if purpose = .text then 3 else 0) [byte]
  | 'u' =>
      guard (purpose ≠ .byte)
      expect "\x7b"
      let code ← codePoint 6 []
      guard (code < 0xD800 ∨ 0xE000 ≤ code ∧ code ≤ 0x10FFFF)
      return Char.ofNat code
  | _ => failure

/-- Whether a character may stand between two lines that are joined. -/
def isJoint (c : Char) : Bool := c = ' ' || c = '\t' || c = '\n' || c = '\r'

/--
Takes a line break with the blanks after it, if one comes here, and says
whether it did.
-/
def lineBreak : Reader Bool := fun text =>
  some (match text with
    | '\n' :: rest | '\r' :: '\n' :: rest => (true, rest.dropWhile isJoint)
    | _ => (false, text))

/-- Takes a text up to its closing quote. -/
def quotedWithin (purpose : EscapeUse) : Nat → List Char → Reader String
  | 0, _ => failure
  | steps + 1, read => do
      match ← next with
      | '"' => return String.ofList read.reverse
      | '\\' =>
          if ← lineBreak then quotedWithin purpose steps read
          else quotedWithin purpose steps ((← escape purpose) :: read)
      | c => quotedWithin purpose steps (c :: read)

/-- Takes a text after its opening quote. -/
def quoted (purpose : EscapeUse) : Reader String := do
  quotedWithin purpose ((← get).length + 1) []

/-- Takes a text up to a closing symbol, which may not be missing. -/
def rawWithin (close : List Char) :
    List Char → List Char → Option (String × List Char)
  | read, text =>
      if close.isPrefixOf text then
        some (String.ofList read.reverse, text.drop close.length)
      else
        match text with
        | [] => none
        | c :: rest => rawWithin close (c :: read) rest

/-- Takes a raw text after the letter that marks it. -/
def raw : Reader String := do
  let signs ← takeWhile (· = '#')
  expect "\""
  rawWithin ('"' :: signs) []

/-- Takes a text. -/
def text : Reader String := do
  if ← accept "\"" then quoted .text
  else do
    expect "r"
    raw

/-- Takes a list of bytes, of which only the form matters. -/
def byteText : Reader Unit := do
  if ← accept "b\"" then let _ ← quoted .bytes
  else do
    expect "br"
    let _ ← raw

/-- Takes a single character, of which only the form matters. -/
def character : Reader Unit := do
  expect "'"
  if (← next) = '\\' then let _ ← escape .char
  expect "'"

/-- Takes a single byte, of which only the form matters. -/
def byteCharacter : Reader Unit := do
  expect "b'"
  let c ← next
  if c = '\\' then let _ ← escape .byte
  else guard (c.toNat < 0x80)
  expect "'"

end VoxelRelay.Notation
