import Calculator.Json.Obstacle
import Calculator.Text.Surrogate

/-!
# Written JSON

Two layouts are in use: a compact one that leaves characters outside ASCII as they are, and a
spaced one that escapes them. A lone surrogate has an escape, too, so the spaced layout can write
it. `Json.render` writes every value, and spells out floats that are not finite; `Json.encode` fails
for values that cannot be written.
-/

namespace Calculator.Json

/-- How a value is laid out. -/
structure Layout where
  /-- What stands between two items. -/
  itemSeparator : String
  /-- What stands between a key and its value. -/
  keySeparator : String
  /-- Whether characters outside printable ASCII are escaped. -/
  asciiOnly : Bool
  /-- The block of the stand-ins for lone surrogates, if there are any. -/
  standIns : Option Text.Surrogate.Block := none

/-- No spaces, characters as they are. -/
def Layout.compact : Layout where
  itemSeparator := ","
  keySeparator := ":"
  asciiOnly := false

/-- A space after each separator, printable ASCII only. -/
def Layout.spaced : Layout where
  itemSeparator := ", "
  keySeparator := ": "
  asciiOnly := true

/-- The layout for a text with stand-ins. -/
def Layout.withStandIns (layout : Layout) (standIns : Option Text.Surrogate.Block) : Layout :=
  { layout with standIns }

/-- The escape of one UTF-16 unit. -/
def unitEscape (unit : Nat) : List Char := '\\' :: 'u' :: Text.hexDigits 4 unit

/-- The escape of a character by its UTF-16 units. -/
def charEscape (c : Char) : List Char :=
  let n := c.val.toNat
  if n < 0x10000 then unitEscape n
  else unitEscape (0xD800 + (n - 0x10000) / 0x400) ++ unitEscape (0xDC00 + (n - 0x10000) % 0x400)

/-- The escape of a character, or of the lone surrogate that it stands for. -/
def Layout.escape (layout : Layout) (c : Char) : List Char :=
  match layout.standIns with
  | none => charEscape c
  | some block => if block.contains c then unitEscape (block.surrogate c) else charEscape c

/-- One character of a written text. -/
def stringChar (layout : Layout) (c : Char) : List Char :=
  if c = '"' then ['\\', '"']
  else if c = '\\' then ['\\', '\\']
  else if c = '\n' then ['\\', 'n']
  else if c = '\r' then ['\\', 'r']
  else if c = '\t' then ['\\', 't']
  else if c = '\x0c' then ['\\', 'f']
  else if c = '\x08' then ['\\', 'b']
  else if c.val.toNat < 0x20 then charEscape c
  else if layout.asciiOnly && 0x7E < c.val.toNat then layout.escape c
  else [c]

/-- A written text. -/
def renderString (layout : Layout) (text : String) : String :=
  String.ofList ('"' :: (text.toList.flatMap (stringChar layout) ++ ['"']))

mutual

/-- A written value; floats that are not finite are spelled out. -/
def render (layout : Layout) : Json → String
  | .null => "null"
  | .bool true => "true"
  | .bool false => "false"
  | .int n => toString n
  | .float x => Decimal.text .json x
  | .str s => renderString layout s
  | .arr items => "[" ++ renderItems layout items ++ "]"
  | .obj members => "\x7b" ++ renderMembers layout members ++ "\x7d"

/-- The items of a list, separated. -/
def renderItems (layout : Layout) : List Json → String
  | [] => ""
  | [item] => render layout item
  | item :: rest => render layout item ++ layout.itemSeparator ++ renderItems layout rest

/-- The members of an object, separated. -/
def renderMembers (layout : Layout) : List (String × Json) → String
  | [] => ""
  | [(key, value)] => renderString layout key ++ layout.keySeparator ++ render layout value
  | (key, value) :: rest =>
    renderString layout key ++ layout.keySeparator ++ render layout value ++
      layout.itemSeparator ++ renderMembers layout rest

end

/-- The value as JSON, unless it cannot be written. Strict JSON has no word for infinities and for
what is no number. -/
def encode (layout : Layout) (strict : Bool) (value : Json) : Except Obstacle String :=
  match value.obstacle? strict maxDepth with
  | none => .ok (render layout value)
  | some obstacle => .error obstacle

end Calculator.Json
