import Calculator.Limit
import Calculator.Text.Integer
import Calculator.Text.Surrogate

/-!
# Settings

Every setting has a default, which an environment variable replaces, which an override replaces in
turn. Hosts are texts and are taken as they are; ports and the length limit are written integers.

## Main definitions

* `Setting`: the settings.
* `Variable`: the value of an environment variable.
* `Settings`: the environment and the overrides in force.
* `Settings.get`: the value of a setting.
* `Settings.lengthLimit`: the limit on the length of expressions, which has to be positive.
* `Settings.override`: replace the overrides.
-/

namespace Calculator

/-- What can be set. -/
inductive Setting where
  /-- The greatest length of an expression. -/
  | maxExpressionLength
  /-- The address of the tool server. -/
  | mcpHost
  /-- The port of the tool server. -/
  | mcpPort
  /-- The address of the web server. -/
  | webHost
  /-- The port of the web server. -/
  | webPort
  deriving DecidableEq, Repr

namespace Setting

/-- All settings. -/
def all : List Setting := [.maxExpressionLength, .mcpHost, .mcpPort, .webHost, .webPort]

/-- The key of a setting among the overrides. -/
def key : Setting → String
  | .maxExpressionLength => "max_expression_length"
  | .mcpHost => "mcp_host"
  | .mcpPort => "mcp_port"
  | .webHost => "web_host"
  | .webPort => "web_port"

/-- The environment variable of a setting. -/
def environmentName : Setting → String
  | .maxExpressionLength => "RPNCALC_MAX_EXPRESSION_LENGTH"
  | .mcpHost => "RPNCALC_MCP_HOST"
  | .mcpPort => "RPNCALC_MCP_PORT"
  | .webHost => "RPNCALC_WEB_HOST"
  | .webPort => "RPNCALC_WEB_PORT"

/-- The value of a setting that nobody set. -/
def default : Setting → Json
  | .maxExpressionLength => .int 10000
  | .mcpHost => .str "0.0.0.0"
  | .mcpPort => .int 8020
  | .webHost => .str "0.0.0.0"
  | .webPort => .int 8022

/-- Whether the environment gives a setting as an integer. -/
def isInteger (setting : Setting) : Bool :=
  match setting.default with
  | .int _ => true
  | _ => false

/-- The setting with a given key. -/
def ofKey? (key : String) : Option Setting := all.find? (fun setting => setting.key = key)

end Setting

/-- The value of an environment variable. Each of its bytes that belongs to no character is a lone
surrogate in it. -/
structure Variable where
  /-- The text. -/
  text : String
  /-- The block of the stand-ins for lone surrogates, if there are any in the text. -/
  standIns : Option Text.Surrogate.Block := none

/-- A text is a value without lone surrogates. -/
instance : Coe String Variable := ⟨fun text => { text }⟩

/-- What is wrong with the settings. -/
inductive SettingsError where
  /-- An environment variable that has to be an integer. -/
  | notInteger (name : String) (value : Variable)
  /-- A length limit that allows nothing. -/
  | notPositive (limit : Limit)
  /-- A length limit that is no number, by the name of its type. -/
  | notNumeric (type : String)
  /-- Overrides of nothing that can be set, in order. -/
  | unknownKeys (keys : List String)

/-- The wording of a settings error. -/
def SettingsError.message : SettingsError → String
  | .notInteger name value => s!"{name} must be an integer, got '{value.text}'"
  | .notPositive _ => "max_expression_length must be positive"
  | .notNumeric type => s!"'<=' not supported between instances of '{type}' and 'int'"
  | .unknownKeys keys => "Unknown configuration keys: " ++ (Json.texts keys).shown

/-- What a settings error tells beyond its wording. -/
def SettingsError.details : SettingsError → Fields
  | .notInteger name value => [("variable", .str name), ("value", .str value.text)]
  | .notPositive limit => [("value", limit.toJson)]
  | .notNumeric _ => []
  | .unknownKeys keys => [("keys", .texts keys)]

/-- The block of the stand-ins for lone surrogates in what a settings error tells. -/
def SettingsError.standIns : SettingsError → Option Text.Surrogate.Block
  | .notInteger _ value => value.standIns
  | _ => none

/-- Where settings come from. -/
structure Settings where
  /-- The environment variables. -/
  environment : Table Variable := []
  /-- The overrides in force, if any. -/
  overrides : Option Fields := none

namespace Settings

/-- The value of a setting in the environment, or its default. -/
def getUnlessOverridden (settings : Settings) (setting : Setting) : Except SettingsError Json :=
  match Table.get? settings.environment setting.environmentName with
  | none => .ok setting.default
  | some written =>
    if setting.isInteger then
      match Text.integer? written.text with
      | some n => .ok (.int n)
      | none => .error (.notInteger setting.environmentName written)
    else .ok (.str written.text)

/-- The value of a setting: an override, else the environment's, else the default. -/
def get (settings : Settings) (setting : Setting) : Except SettingsError Json :=
  match settings.overrides.bind (Table.get? · setting.key) with
  | some value => .ok value
  | none => settings.getUnlessOverridden setting

/-- The limit on the length of expressions. -/
def lengthLimit (settings : Settings) : Except SettingsError Limit :=
  match settings.get .maxExpressionLength with
  | .error error => .error error
  | .ok value =>
    match Limit.ofJson? value with
    | none => .error (.notNumeric value.typeName)
    | some limit => if limit.isNonPositive then .error (.notPositive limit) else .ok limit

/-- The value of a setting as a reader sees it: the length limit only if it is positive. -/
def read (settings : Settings) (setting : Setting) : Except SettingsError Json :=
  match setting with
  | .maxExpressionLength => settings.lengthLimit.map Limit.toJson
  | _ => settings.get setting

/-- Put new overrides in force, in place of all earlier ones. -/
def override (settings : Settings) (overrides : Fields) : Except SettingsError Settings :=
  let unknown := (Table.keys overrides).filter (fun key => (Setting.ofKey? key).isNone)
  if unknown.isEmpty then .ok { settings with overrides := some overrides }
  else .error (.unknownKeys (unknown.mergeSort (fun a b => a ≤ b)))

/-- Put no overrides in force. -/
def clearOverrides (settings : Settings) : Settings := { settings with overrides := none }

/-- Set an environment variable. -/
def setVariable (settings : Settings) (name : String) (value : Variable) : Settings :=
  { settings with environment := Table.insert settings.environment name value }

/-- Unset an environment variable. -/
def unsetVariable (settings : Settings) (name : String) : Settings :=
  { settings with environment := Table.erase settings.environment name }

end Settings

end Calculator
