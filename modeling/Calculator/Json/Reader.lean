import Calculator.Json.Basic
import Calculator.Decimal.Text
import Calculator.Text.Integer
import Calculator.Text.Surrogate

/-!
# Reading JSON

A reader for JSON texts that also takes the words `NaN`, `Infinity` and `-Infinity` as numbers.
Control characters inside texts are refused, the last of repeated keys wins in the place of the
first, and integers of more than `Text.maxDigits` digits are refused. The caller says what an
escaped UTF-16 unit that is half of no pair is read as, and how deep lists and objects may be
nested.

## Main definitions

* `Json.ReadError`: why a text is refused.
* `Json.read`: the value of a text.
* `Json.ofChars?`: the value of a text of any depth.
-/

namespace Calculator.Json

open Text

/-- The four characters that may stand between the parts of a JSON text. -/
def isSpace (c : Char) : Bool := c = ' ' || c = '\t' || c = '\n' || c = '\r'

/-- What follows the spaces at the front. -/
def skipSpaces (chars : List Char) : List Char := chars.dropWhile isSpace

/-- The value of a hexadecimal digit. -/
def hexValue? (c : Char) : Option Nat :=
  if '0' ≤ c ∧ c ≤ '9' then some (c.val.toNat - 48)
  else if 'a' ≤ c ∧ c ≤ 'f' then some (c.val.toNat - 87)
  else if 'A' ≤ c ∧ c ≤ 'F' then some (c.val.toNat - 55)
  else none

/-- The unit that four hexadecimal digits spell. -/
def hexUnit? (a b c d : Char) : Option Nat := do
  let a ← hexValue? a
  let b ← hexValue? b
  let c ← hexValue? c
  let d ← hexValue? d
  return ((a * 16 + b) * 16 + c) * 16 + d

/-- The character of a one-letter escape. -/
def simpleEscape? : Char → Option Char
  | '"' => some '"'
  | '\\' => some '\\'
  | '/' => some '/'
  | 'b' => some '\x08'
  | 'f' => some '\x0c'
  | 'n' => some '\n'
  | 'r' => some '\r'
  | 't' => some '\t'
  | _ => none

/-- What was read, with a first half of a pair that no second half followed. -/
def settle (lone : Nat → Char) (half : Option Nat) (read : List Char) : List Char :=
  match half with
  | some unit => lone unit :: read
  | none => read

/-- Read a text after its opening mark. `half` is a first half of a pair right before, `read` holds
what was read, last first. -/
def readString (lone : Nat → Char) (half : Option Nat) (read : List Char) :
    List Char → Option (String × List Char)
  | [] => none
  | '"' :: rest => some (String.ofList (settle lone half read).reverse, rest)
  | '\\' :: 'u' :: a :: b :: c :: d :: rest =>
    match hexUnit? a b c d, half with
    | none, _ => none
    | some unit, some high =>
      if Surrogate.isLow unit then readString lone none (Surrogate.pair high unit :: read) rest
      else if Surrogate.isHigh unit then readString lone (some unit) (lone high :: read) rest
      else readString lone none (Surrogate.scalar lone unit :: lone high :: read) rest
    | some unit, none =>
      if Surrogate.isHigh unit then readString lone (some unit) read rest
      else readString lone none (Surrogate.scalar lone unit :: read) rest
  | '\\' :: c :: rest =>
    match simpleEscape? c with
    | some e => readString lone none (e :: settle lone half read) rest
    | none => none
  | c :: rest =>
    if c = '\\' || c.val.toNat < 0x20 then none
    else readString lone none (c :: settle lone half read) rest

/-- The digits `0` to `9` at the front, and what follows them. -/
def digitSpan (chars : List Char) : List Nat × List Char :=
  let (digits, rest) := chars.span (fun c => '0' ≤ c ∧ c ≤ '9')
  (digits.map Text.asciiDigit, rest)

/-- The integral digits of a number: a zero on its own, or digits that start with another one. -/
def integralDigits? (chars : List Char) : Option (List Nat × List Char) :=
  match chars with
  | '0' :: rest => some ([0], rest)
  | _ =>
    match digitSpan chars with
    | ([], _) => none
    | result => some result

/-- The fraction at the front, if there is one: a point and at least one digit. -/
def fraction? (chars : List Char) : Option (List Nat × List Char) :=
  match chars with
  | '.' :: rest =>
    match digitSpan rest with
    | ([], _) => none
    | result => some result
  | _ => none

/-- The digits of an exponent, with its sign. -/
def signedDigits? (negative : Bool) (chars : List Char) : Option (Int × List Char) :=
  match digitSpan chars with
  | ([], _) => none
  | (digits, rest) =>
    let n : Int := Text.numberOfDigits digits
    some (if negative then -n else n, rest)

/-- The exponent at the front, if there is one: its mark, a sign or none, and at least one digit. -/
def exponent? (chars : List Char) : Option (Int × List Char) :=
  match chars with
  | mark :: rest =>
    if mark = 'e' || mark = 'E' then
      match rest with
      | '+' :: rest' => signedDigits? false rest'
      | '-' :: rest' => signedDigits? true rest'
      | _ => signedDigits? false rest
    else none
  | [] => none

/-- Read the unsigned part of a number. -/
def readNumber (negative : Bool) (chars : List Char) : Option (Json × List Char) :=
  match integralDigits? chars with
  | none => none
  | some (whole, afterWhole) =>
    let float (digits : List Nat) (exponent : Int) : Json :=
      let x := Decimal.nearest (Text.numberOfDigits digits) exponent
      .float (if negative then -x else x)
    match fraction? afterWhole with
    | some (part, afterPart) =>
      match exponent? afterPart with
      | some (e, rest) => some (float (whole ++ part) (e - part.length), rest)
      | none => some (float (whole ++ part) (-part.length), afterPart)
    | none =>
      match exponent? afterWhole with
      | some (e, rest) => some (float whole e, rest)
      | none =>
        if whole.length ≤ Text.maxDigits then
          let n : Int := Text.numberOfDigits whole
          some (.int (if negative then -n else n), afterWhole)
        else none

/-- Drop `word` from the front. -/
def dropWord? (word : List Char) (chars : List Char) : Option (List Char) :=
  match word, chars with
  | [], rest => some rest
  | w :: word, c :: rest => if w = c then dropWord? word rest else none
  | _ :: _, [] => none

/-- Read a number, a word or a text. -/
def readScalar (lone : Nat → Char) (chars : List Char) : Option (Json × List Char) :=
  match chars with
  | '"' :: rest => (readString lone none [] rest).map (fun (text, rest) => (.str text, rest))
  | 'n' :: rest => (dropWord? ['u', 'l', 'l'] rest).map (.null, ·)
  | 't' :: rest => (dropWord? ['r', 'u', 'e'] rest).map (.bool true, ·)
  | 'f' :: rest => (dropWord? ['a', 'l', 's', 'e'] rest).map (.bool false, ·)
  | 'N' :: rest => (dropWord? ['a', 'N'] rest).map (.float (0.0 / 0.0), ·)
  | 'I' :: rest => (dropWord? "nfinity".toList rest).map (.float (1.0 / 0.0), ·)
  | '-' :: 'I' :: rest => (dropWord? "nfinity".toList rest).map (.float (-1.0 / 0.0), ·)
  | '-' :: rest => readNumber true rest
  | _ => readNumber false chars

/-- Why a text cannot be read. -/
inductive ReadError where
  /-- It is no JSON. -/
  | malformed
  /-- Its lists and objects are nested too deep; `list` tells which of the two came last. -/
  | tooDeep (list : Bool)
  deriving DecidableEq, Repr

mutual

/-- Read a value. Up to `depth` lists and objects may be nested in it, and `fuel` bounds the number
of its parts. -/
def readValue (lone : Nat → Char) (fuel depth : Nat) (chars : List Char) :
    Except ReadError (Json × List Char) :=
  match fuel with
  | 0 => .error .malformed
  | fuel + 1 =>
    match chars, depth with
    | '[' :: _, 0 => .error (.tooDeep true)
    | '\x7b' :: _, 0 => .error (.tooDeep false)
    | '[' :: rest, depth + 1 =>
      match skipSpaces rest with
      | ']' :: rest => .ok (.arr [], rest)
      | rest => readItems lone fuel depth [] rest
    | '\x7b' :: rest, depth + 1 =>
      match skipSpaces rest with
      | '\x7d' :: rest => .ok (.obj [], rest)
      | rest => readMembers lone fuel depth [] rest
    | _, _ =>
      match readScalar lone chars with
      | some result => .ok result
      | none => .error .malformed

/-- Read the items of a list up to its end; `read` holds the items before, last first. -/
def readItems (lone : Nat → Char) (fuel depth : Nat) (read : List Json) (chars : List Char) :
    Except ReadError (Json × List Char) :=
  match fuel with
  | 0 => .error .malformed
  | fuel + 1 =>
    match readValue lone fuel depth chars with
    | .error e => .error e
    | .ok (item, rest) =>
      match skipSpaces rest with
      | ',' :: rest => readItems lone fuel depth (item :: read) (skipSpaces rest)
      | ']' :: rest => .ok (.arr (item :: read).reverse, rest)
      | _ => .error .malformed

/-- Read the members of an object up to its end, after the members `read`. -/
def readMembers (lone : Nat → Char) (fuel depth : Nat) (read : Fields) (chars : List Char) :
    Except ReadError (Json × List Char) :=
  match fuel with
  | 0 => .error .malformed
  | fuel + 1 =>
    match chars with
    | '"' :: rest =>
      match readString lone none [] rest with
      | none => .error .malformed
      | some (key, rest) =>
        match skipSpaces rest with
        | ':' :: rest =>
          match readValue lone fuel depth (skipSpaces rest) with
          | .error e => .error e
          | .ok (value, rest) =>
            let read := Table.insert read key value
            match skipSpaces rest with
            | ',' :: rest => readMembers lone fuel depth read (skipSpaces rest)
            | '\x7d' :: rest => .ok (.obj read, rest)
            | _ => .error .malformed
        | _ => .error .malformed
    | _ => .error .malformed

end

/-- Read a whole JSON text with at most `depth` lists and objects inside each other, and with `lone`
for lone surrogates. Each character begins at most two parts. -/
def read (lone : Nat → Char) (depth : Nat) (chars : List Char) : Except ReadError Json :=
  match readValue lone (2 * chars.length + 2) depth (skipSpaces chars) with
  | .error e => .error e
  | .ok (value, rest) => if (skipSpaces rest).isEmpty then .ok value else .error .malformed

/-- Read a whole JSON text. No text nests deeper than it is long. -/
def ofChars? (chars : List Char) : Option Json :=
  (read Surrogate.replacement chars.length chars).toOption

end Calculator.Json
