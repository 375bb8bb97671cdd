import Calculator.Table

/-!
# JSON values

The values that requests, answers, error details and log fields are made of. Integers are of any
size and kept apart from floats, and the members of an object keep their order.
-/

namespace Calculator

/-- A JSON value. -/
inductive Json where
  /-- The absent value. -/
  | null
  /-- A truth value. -/
  | bool (value : Bool)
  /-- An integer of any size. -/
  | int (value : Int)
  /-- A number with a fraction or an exponent. -/
  | float (value : Float)
  /-- A text. -/
  | str (value : String)
  /-- A list. -/
  | arr (items : List Json)
  /-- An object, its members in order. -/
  | obj (members : List (String × Json))
  deriving Inhabited

/-- The named values of an error, a log entry or an object. -/
abbrev Fields := Table Json

namespace Json

/-- A list of texts. -/
def texts (items : List String) : Json := .arr (items.map .str)

/-- A natural number. -/
def nat (n : Nat) : Json := .int n

/-- An optional value, absent as `null`. -/
def ofOption : Option Json → Json
  | some value => value
  | none => .null

/-- The member of an object under `key`. -/
def get? (value : Json) (key : String) : Option Json :=
  match value with
  | .obj members => Table.get? members key
  | _ => none

mutual

/-- The characters of all keys and texts in a value. -/
def characters : Json → List Char
  | .str text => text.toList
  | .arr items => itemCharacters items
  | .obj members => memberCharacters members
  | _ => []

/-- The characters of all keys and texts in a list of values. -/
def itemCharacters : List Json → List Char
  | [] => []
  | item :: rest => characters item ++ itemCharacters rest

/-- The characters of all keys and texts in the members of an object. -/
def memberCharacters : List (String × Json) → List Char
  | [] => []
  | (key, value) :: rest => key.toList ++ characters value ++ memberCharacters rest

end

/-- The name of a value's type, as messages give it. -/
def typeName : Json → String
  | .null => "NoneType"
  | .bool _ => "bool"
  | .int _ => "int"
  | .float _ => "float"
  | .str _ => "str"
  | .arr _ => "list"
  | .obj _ => "dict"

/-- Whether a value is neither absent nor false nor zero nor empty. -/
def isTruthy : Json → Bool
  | .null => false
  | .bool b => b
  | .int n => n != 0
  | .float x => x != 0.0
  | .str s => s != ""
  | .arr items => !items.isEmpty
  | .obj members => !members.isEmpty

end Json

end Calculator
