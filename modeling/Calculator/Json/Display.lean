import Calculator.Json.Basic
import Calculator.Decimal.Text
import Calculator.Text.Quoted

/-!
# Displayed values

The text of a value in messages and plain log lines: words for truth values and for the absent
value, texts bare at the outside and quoted within lists and objects.
-/

namespace Calculator.Json

mutual

/-- The text of a value within a list or an object. -/
def shown : Json → String
  | .null => "None"
  | .bool true => "True"
  | .bool false => "False"
  | .int n => toString n
  | .float x => Decimal.text .words x
  | .str s => Text.quoted s
  | .arr items => "[" ++ shownItems items ++ "]"
  | .obj members => "\x7b" ++ shownMembers members ++ "\x7d"

/-- The items of a list, separated. -/
def shownItems : List Json → String
  | [] => ""
  | [item] => shown item
  | item :: rest => shown item ++ ", " ++ shownItems rest

/-- The members of an object, separated. -/
def shownMembers : List (String × Json) → String
  | [] => ""
  | [(key, value)] => Text.quoted key ++ ": " ++ shown value
  | (key, value) :: rest => Text.quoted key ++ ": " ++ shown value ++ ", " ++ shownMembers rest

end

/-- The text of a value on its own: a text stands for itself. -/
def display : Json → String
  | .str s => s
  | value => shown value

end Calculator.Json
