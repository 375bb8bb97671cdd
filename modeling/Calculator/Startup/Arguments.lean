import Calculator.Json.Basic
import Calculator.Text.Integer

/-!
# Command line arguments

The servers take a host and a port. A long option may be shortened as long as no other option
starts the same way, and its value may follow after an equals sign. All arguments are told apart
before any is used, so that an ambiguous one is refused even after a request for help.

An argument may hold lone surrogates, for bytes that belong to no character. It is given with their
stand-ins, which are no blanks, digits or marks of options either, so that no argument is told apart
by them; they stay in the host.

## Main definitions

* `Argument.read`: what an argument is.
* `Argument.readAll`: what all arguments are.
* `CommandLine.parse`: what the arguments ask for.
-/

namespace Calculator

/-- The options of the servers. -/
inductive CommandOption where
  /-- Show how the program is used. -/
  | help
  /-- The address to listen on. -/
  | host
  /-- The port to listen on. -/
  | port
  deriving DecidableEq, Repr

/-- The long names of the options. -/
def CommandOption.longNames : List (String × CommandOption) :=
  [("--help", .help), ("--host", .host), ("--port", .port)]

/-- What an argument is. -/
inductive Argument where
  /-- An option by a long name, with the value after its equals sign. -/
  | long (option : CommandOption) (inline : Option String)
  /-- The short option for help, with what follows in the same argument. -/
  | short (rest : List Char)
  /-- An option that is not known. -/
  | unknown
  /-- A value. -/
  | value (text : String)
  /-- The mark after which there are no more options. -/
  | separator

namespace Argument

/-- Cut at the first equals sign. -/
def cutAtEquals (text : List Char) : List Char × Option (List Char) :=
  match text.dropWhile (· ≠ '=') with
  | [] => (text, none)
  | _ :: inline => (text.takeWhile (· ≠ '='), some inline)

/-- The options that a shortened long name may stand for. -/
def candidates (name : List Char) : List CommandOption :=
  (CommandOption.longNames.filter (fun entry => name.isPrefixOf entry.1.toList)).map (·.2)

/-- Whether an argument is a negative number: a minus sign and digits, with at most one point before
the last of them. A line feed at its end does not matter. -/
def isNegativeNumber (text : List Char) : Bool :=
  let isDigit := fun c => (Text.digitValue? c).isSome
  let body := if text.getLast? = some '\n' then text.dropLast else text
  match body with
  | '-' :: rest =>
    match rest.dropWhile isDigit with
    | [] => !rest.isEmpty
    | '.' :: fraction => !fraction.isEmpty && fraction.all isDigit
    | _ => false
  | _ => false

/-- Read an argument with two dashes in front; an ambiguous one is refused. -/
def readLong (text : List Char) : Option Argument :=
  let (name, inline) := cutAtEquals text
  match CommandOption.longNames.find? (fun entry => entry.1.toList = name) with
  | some (_, option) => some (.long option (inline.map String.ofList))
  | none =>
    match candidates name with
    | [] => some (if text.contains ' ' then .value (String.ofList text) else .unknown)
    | [option] => some (.long option (inline.map String.ofList))
    | _ => none

/-- Read an argument with one dash in front. -/
def readShort (text : List Char) : Argument :=
  match text with
  | '-' :: 'h' :: rest => .short rest
  | _ =>
    if isNegativeNumber text || text.contains ' ' then .value (String.ofList text) else .unknown

/-- Read an argument; an ambiguous one is refused. -/
def read (text : String) : Option Argument :=
  match text.toList with
  | ['-'] => some (.value text)
  | '-' :: '-' :: rest => readLong ('-' :: '-' :: rest)
  | '-' :: rest => some (readShort ('-' :: rest))
  | _ => some (.value text)

/-- Read all arguments. After the mark for it, all are values. -/
def readAll : List String → Option (List Argument)
  | [] => some []
  | text :: rest =>
    if text = "--" then some (.separator :: rest.map .value)
    else
      match read text with
      | none => none
      | some argument => (readAll rest).map (argument :: ·)

end Argument

/-- Where to listen. -/
structure Address where
  /-- The host. -/
  host : Json
  /-- The port. -/
  port : Json

/-- What the command line asks for. -/
inductive CommandLine where
  /-- To serve. -/
  | serve (address : Address)
  /-- To show how the program is used. -/
  | help
  /-- Nothing that the program understands. -/
  | invalid

namespace CommandLine

/-- Whether the short option for help is granted with what follows it in the same argument. The
option may be repeated, and what is not known does not matter; but help takes no value, neither
after an equals sign nor with a dash. -/
def grantsHelp : List Char → Bool
  | [] => true
  | c :: rest => if c = 'h' then grantsHelp rest else c ≠ '=' && c ≠ '-'

/-- Set an option to a value. -/
def assign (address : Address) (option : CommandOption) (value : String) : Option Address :=
  match option with
  | .help => none
  | .host => some { address with host := .str value }
  | .port => (Text.integer? value).map (fun n => { address with port := .int n })

/-- Go through the arguments in order. Arguments that belong to no option are refused at the end. -/
def follow (address : Address) (leftover : Bool) : List Argument → CommandLine
  | [] => if leftover then .invalid else .serve address
  | .short rest :: _ => if grantsHelp rest then .help else .invalid
  | .long option (some value) :: rest =>
    match assign address option value with
    | some address => follow address leftover rest
    | none => .invalid
  | .long .help none :: _ => .help
  | .long option none :: .value value :: rest =>
    match assign address option value with
    | some address => follow address leftover rest
    | none => .invalid
  | .long _ none :: _ => .invalid
  | .unknown :: rest => follow address true rest
  | .value _ :: rest => follow address true rest
  | .separator :: rest => follow address true rest

/-- What the arguments ask for, where `address` is to be used for what they leave open. -/
def parse (address : Address) (arguments : List String) : CommandLine :=
  match Argument.readAll arguments with
  | some read => follow address false read
  | none => .invalid

end CommandLine

end Calculator
