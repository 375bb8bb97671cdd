import Calculator.Text.Digit

/-!
# Hosts

A client says under which host it reached the server: a name, or an IP address in brackets, and
perhaps a port. Only a host that is written well is used in the addresses that the server gives out.

## Main definitions

* `Host.isName`: names, in which any character may be spelled by a percent sign and its code.
* `Host.isVersionFour`, `Host.isVersionSix`, `Host.isFuture`: the three kinds of IP addresses.
* `Host.isHost`: a host with or without a port.
-/

namespace Calculator.Web.Host

/-! ### Names -/

/-- Whether a character is a hexadecimal digit. -/
def isHexDigit (c : Char) : Bool :=
  c.isDigit || ('a' ≤ c && c ≤ 'f') || ('A' ≤ c && c ≤ 'F')

/-- The marks that a name may hold beside letters and digits. -/
def nameMarks : List Char :=
  ['-', '.', '_', '~', '!', '$', '&', '\'', '(', ')', '*', '+', ',', ';', '=']

/-- Whether a character stands for itself in a name. -/
def isNameChar (c : Char) : Bool := c.isAlphanum || nameMarks.contains c

/-- Whether each character stands for itself or is spelled by a percent sign and two digits. -/
def isSpelled : List Char → Bool
  | [] => true
  | '%' :: a :: b :: rest => isHexDigit a && isHexDigit b && isSpelled rest
  | c :: rest => isNameChar c && isSpelled rest

/-- Whether characters form a name. -/
def isName (chars : List Char) : Bool := !chars.isEmpty && isSpelled chars

/-! ### Addresses -/

/-- The pieces of characters between separators. There is one more of them than separators. -/
def pieces (separator : Char) : List Char → List (List Char)
  | [] => [[]]
  | c :: rest =>
    if c = separator then [] :: pieces separator rest
    else
      match pieces separator rest with
      | [] => [[c]]
      | first :: others => (c :: first) :: others

/-- Whether characters are the decimal digits of a number up to a bound. -/
def isNumberUpTo (bound : Nat) (chars : List Char) : Bool :=
  !chars.isEmpty && chars.all Char.isDigit &&
    Text.numberOfDigits (chars.map Text.asciiDigit) ≤ bound

/-- Whether characters form one of the four numbers of an address. No zero leads it. -/
def isByte (chars : List Char) : Bool :=
  isNumberUpTo 255 chars && (chars.length = 1 || chars.head? ≠ some '0')

/-- Whether characters form an address of four numbers. -/
def isVersionFour (chars : List Char) : Bool :=
  (pieces '.' chars).length = 4 && (pieces '.' chars).all isByte

/-- Whether characters form one of the eight groups of an address. -/
def isGroup (chars : List Char) : Bool :=
  !chars.isEmpty && chars.length ≤ 4 && chars.all isHexDigit

/-- How many groups pieces stand for. The last piece may be an address of four numbers, which
stands for two groups. -/
def groupCount? : List (List Char) → Option Nat
  | [] => some 0
  | [last] => if isGroup last then some 1 else if isVersionFour last then some 2 else none
  | first :: rest => if isGroup first then (groupCount? rest).map (· + 1) else none

/-- What stands before the first two colons in a row, and what stands after them. -/
def cutAtGap : List Char → List Char × Option (List Char)
  | [] => ([], none)
  | ':' :: ':' :: rest => ([], some rest)
  | c :: rest => (c :: (cutAtGap rest).1, (cutAtGap rest).2)

/-- How many groups stand before a gap. -/
def countBefore? (chars : List Char) : Option Nat :=
  if chars.isEmpty then some 0
  else if (pieces ':' chars).all isGroup then some (pieces ':' chars).length
  else none

/-- How many groups stand after a gap. -/
def countAfter? (chars : List Char) : Option Nat :=
  if chars.isEmpty then some 0 else groupCount? (pieces ':' chars)

/-- Whether characters form an address of eight groups. A gap stands for at least one of them. -/
def isVersionSix (chars : List Char) : Bool :=
  match cutAtGap chars with
  | (groups, none) => countAfter? groups = some 8
  | (before, some after) =>
    match countBefore? before, countAfter? after with
    | some m, some n => m + n ≤ 7
    | _, _ => false

/-- Whether characters form an address of a kind to come: the letter `v`, the number of the kind, a
point, and the address. -/
def isFuture : List Char → Bool
  | 'v' :: rest =>
    match rest.dropWhile isHexDigit with
    | '.' :: address =>
      !(rest.takeWhile isHexDigit).isEmpty && !address.isEmpty &&
        address.all (fun c => isNameChar c || c = ':')
    | _ => false
  | _ => false

/-! ### Hosts with a port -/

/-- Whether characters are nothing, or a colon and the number of a port. -/
def isPort : List Char → Bool
  | [] => true
  | c :: digits => c = ':' && isNumberUpTo 65535 digits

/-- Whether a text is a host, with or without a port. -/
def isHost (text : String) : Bool :=
  match text.toList with
  | '[' :: rest =>
    match rest.dropWhile (· ≠ ']') with
    | _ :: port =>
      let address := rest.takeWhile (· ≠ ']')
      (isVersionSix address || isFuture address) && isPort port
    | [] => false
  | chars => isName (chars.takeWhile (· ≠ ':')) && isPort (chars.dropWhile (· ≠ ':'))

end Calculator.Web.Host
