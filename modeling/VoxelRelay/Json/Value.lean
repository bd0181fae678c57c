/-!
# Values of the data format

The values that block-entity payloads carry: null, truth values, numbers,
strings, arrays and objects.  A number is either an integer or a finite binary
fraction, and the two are told apart.  The fields of an object are kept in the
order in which they were written; `normalize` keeps one field a name, the last
one written, in the order of names.
-/

namespace VoxelRelay

/-- A number: an integer of at most 64 bits, or a finite fraction. -/
inductive Json.Number where
  | integer (value : Int)
  | fraction (value : Float)

/-- A value of the data format. -/
inductive Json where
  | null
  | bool (value : Bool)
  | number (value : Json.Number)
  | string (value : String)
  | array (items : List Json)
  | object (fields : List (String × Json))

namespace Json

instance : Inhabited Json := ⟨.null⟩

/-- The object without fields. -/
def emptyObject : Json := .object []

/-- Whether a value is null. -/
def isNull : Json → Bool
  | null => true
  | _ => false

/-- A value that is an integer. -/
def ofInt (value : Int) : Json := .number (.integer value)

/-- A value that is a natural number. -/
def ofNat (value : Nat) : Json := .number (.integer value)

/-- The value of the last field of a given name. -/
def field? (name : String) : Json → Option Json
  | object fields => (fields.reverse.find? (·.1 == name)).map (·.2)
  | _ => none

/--
Puts a field in its place by name, over an earlier field of the same name.
-/
def insertField
    (name : String)
    (value : Json) : List (String × Json) → List (String × Json)
  | [] => [(name, value)]
  | (other, old) :: rest =>
      if name = other then (name, value) :: rest
      else if name < other then (name, value) :: (other, old) :: rest
      else (other, old) :: insertField name value rest

mutual

/-- Keeps the last field of each name, sorted by name, at every level. -/
def normalize : Json → Json
  | array items => array (normalizeItems items)
  | object fields => object (normalizeFields [] fields)
  | scalar => scalar

/-- Normalizes each item of an array. -/
def normalizeItems : List Json → List Json
  | [] => []
  | item :: rest => item.normalize :: normalizeItems rest

/-- Normalizes fields one after another into those already placed. -/
def normalizeFields (placed : List (String × Json)) :
    List (String × Json) → List (String × Json)
  | [] => placed
  | (name, value) :: rest =>
      normalizeFields (insertField name value.normalize placed) rest

end

end Json

end VoxelRelay
