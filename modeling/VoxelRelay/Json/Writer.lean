import VoxelRelay.Decimal.Shortest
import VoxelRelay.Json.Value

/-!
# Writing values of the data format

Values are written without blanks.  Fractions are written with the fewest
digits that read back, positionally while the point stands within sixteen
places, and always with a point or an exponent, so that they are told from
integers.
-/

namespace VoxelRelay.Json

/-- How the digits of a fraction are laid out. -/
structure FractionFormat where
  /-- The point may stand at most this many places after the first digit. -/
  maxPoint : Int
  /-- The point may stand at most this many places before the first digit. -/
  maxLeadingZeros : Int

/-- The layout used by this format. -/
def fractionFormat : FractionFormat := ⟨16, 4⟩

/--
Writes the decimal point or exponent into the digits of a positive number.
-/
def layout (format : FractionFormat) (decimal : Decimal) : String :=
  let digits := Nat.toDigits 10 decimal.digits
  let point : Int := digits.length + decimal.exponent
  if 0 ≤ decimal.exponent ∧ point ≤ format.maxPoint then
    String.ofList (digits ++ List.replicate decimal.exponent.toNat '0') ++
      ".0"
  else if 0 < point ∧ point ≤ format.maxPoint then
    String.ofList (digits.take point.toNat ++ '.' :: digits.drop point.toNat)
  else if -format.maxLeadingZeros ≤ point ∧ point ≤ 0 then
    "0." ++ String.ofList (List.replicate (-point).toNat '0' ++ digits)
  else
    let mantissa :=
      match digits with
      | first :: second :: rest => first :: '.' :: second :: rest
      | short => short
    String.ofList mantissa ++ "e" ++ toString (point - 1)

/-- Writes a finite fraction. -/
def renderFraction (value : Float) : String :=
  let negative := value.toBits >>> 63 == 1
  let size := value.abs
  let text :=
    if size == 0 then "0.0" else layout fractionFormat (Decimal.ofFloat size)
  if negative then "-" ++ text else text

/-- Writes a number. -/
def renderNumber : Number → String
  | .integer value => toString value
  | .fraction value => renderFraction value

/-- The lower-case hexadecimal digit of a number below 16. -/
def hexChar (value : Nat) : Char :=
  "0123456789abcdef".toList.getD value '0'

/-- Writes one character of a string. -/
def escape (c : Char) : List Char :=
  if c = '"' then ['\\', '"']
  else if c = '\\' then ['\\', '\\']
  else if c = '\x08' then ['\\', 'b']
  else if c = '\x0c' then ['\\', 'f']
  else if c = '\n' then ['\\', 'n']
  else if c = '\r' then ['\\', 'r']
  else if c = '\t' then ['\\', 't']
  else if c.toNat < 0x20 then
    ['\\', 'u', '0', '0', hexChar (c.toNat / 16), hexChar (c.toNat % 16)]
  else [c]

/-- Writes a string between quotes. -/
def renderString (text : String) : String :=
  String.ofList ('"' :: (text.toList.flatMap escape ++ ['"']))

mutual

/-- Writes a value. -/
def render : Json → String
  | null => "null"
  | bool value => if value then "true" else "false"
  | number value => renderNumber value
  | string value => renderString value
  | array items => "[" ++ renderItems true items ++ "]"
  | object fields => "\x7b" ++ renderFields true fields ++ "\x7d"

/-- Writes the items of an array with commas between them. -/
def renderItems (first : Bool) : List Json → String
  | [] => ""
  | item :: rest =>
      (if first then "" else ",") ++ item.render ++ renderItems false rest

/-- Writes the fields of an object with commas between them. -/
def renderFields (first : Bool) : List (String × Json) → String
  | [] => ""
  | (name, value) :: rest =>
      (if first then "" else ",") ++ renderString name ++ ":" ++
        value.render ++
        renderFields false rest

end

end VoxelRelay.Json
