import VoxelRelay.Json.Value

/-!
# Written forms

What a text says before anybody asks what its numbers and strings stand for.
The grammar admits numbers that are too great for any number here, strings
with halves of surrogate pairs, and containers that nest without limit.  A
form keeps such parts as parts without a value, so a reader who passes over a
field need not care about them, and one who wants the field is told that it
has no value.
-/

namespace VoxelRelay.Json

/--
A value as it is written; a number or a string may be well-formed and have no
value.
-/
inductive Form where
  | null
  | bool (value : Bool)
  | number (value : Option Number)
  | string (value : Option String)
  | array (items : List Form)
  | object (fields : List (Option String × Form))

instance : Inhabited Form := ⟨.null⟩

/--
The value of a form in which containers nest at most `depth` deep and every
part has a value.
-/
def Form.value? : Nat → Form → Option Json
  | _, null => some .null
  | _, bool value => some (.bool value)
  | _, number value => value.map .number
  | _, string value => value.map .string
  | 0, array _ => none
  | 0, object _ => none
  | depth + 1, array items => (items.mapM (value? depth)).map .array
  | depth + 1, object fields =>
      (fields.mapM fun field : Option String × Form =>
        return (← field.1, ← value? depth field.2)).map .object

mutual

/-- The form in which a value is written. -/
def form : Json → Form
  | null => .null
  | bool value => .bool value
  | number value => .number (some value)
  | string value => .string (some value)
  | array items => .array (itemForms items)
  | object fields => .object (fieldForms fields)

/-- The forms of the items of an array. -/
def itemForms : List Json → List Form
  | [] => []
  | item :: rest => item.form :: itemForms rest

/-- The forms of the fields of an object. -/
def fieldForms : List (String × Json) → List (Option String × Form)
  | [] => []
  | (name, value) :: rest => (some name, value.form) :: fieldForms rest

end

end VoxelRelay.Json
