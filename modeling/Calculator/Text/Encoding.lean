import Calculator.Text.Surrogate

/-!
# Encoded texts

Reading a text from bytes in UTF-8, UTF-16 or UTF-32. The encoding is told by a byte order mark, or
by where the zero bytes stand among the first four. The caller says what a surrogate that is half of
no pair is read as.

## Main definitions

* `Encoding.detect`: the encoding of a byte string, and the bytes after its mark.
* `decode?`: the characters, if the bytes are well formed.
-/

namespace Calculator.Text

/-- The encodings of a request body. -/
inductive Encoding where
  /-- One to four bytes a character. -/
  | utf8
  /-- One or two units of two bytes a character. -/
  | utf16 (bigEndian : Bool)
  /-- Four bytes a character. -/
  | utf32 (bigEndian : Bool)
  deriving DecidableEq, Repr

/-- The encoding of bytes without a byte order mark. -/
def Encoding.ofZeros : List UInt8 → Encoding
  | a :: b :: c :: d :: _ =>
    if a = 0 then (if b = 0 then .utf32 true else .utf16 true)
    else if b = 0 then (if c = 0 ∧ d = 0 then .utf32 false else .utf16 false)
    else .utf8
  | [a, b] => if a = 0 then .utf16 true else if b = 0 then .utf16 false else .utf8
  | _ => .utf8

/-- The encoding of a byte string, and the bytes after its byte order mark. -/
def Encoding.detect : List UInt8 → Encoding × List UInt8
  | 0x00 :: 0x00 :: 0xFE :: 0xFF :: rest => (.utf32 true, rest)
  | 0xFF :: 0xFE :: 0x00 :: 0x00 :: rest => (.utf32 false, rest)
  | 0xFE :: 0xFF :: rest => (.utf16 true, rest)
  | 0xFF :: 0xFE :: rest => (.utf16 false, rest)
  | 0xEF :: 0xBB :: 0xBF :: rest => (.utf8, rest)
  | bytes => (Encoding.ofZeros bytes, bytes)

/-- Whether a byte continues a character in UTF-8, at or above `low` and at or below `high`. -/
def isContinuation (low high byte : UInt8) : Bool := low ≤ byte && byte ≤ high

/-- The low six bits of a continuation byte. -/
def payload (byte : UInt8) : Nat := byte.toNat % 64

/-- The least second byte that may follow a first byte: longer forms than needed are refused. -/
def secondLow (first : UInt8) : UInt8 :=
  if first = 0xE0 then 0xA0 else if first = 0xF0 then 0x90 else 0x80

/-- The greatest second byte that may follow a first byte: nothing lies above the last code
point. -/
def secondHigh (first : UInt8) : UInt8 := if first = 0xF4 then 0x8F else 0xBF

/-- Read UTF-8; `read` holds the characters before, last first. -/
def utf8Chars? (lone : Nat → Char) (read : List Char) : List UInt8 → Option (List Char)
  | [] => some read.reverse
  | a :: rest =>
    if a < 0x80 then utf8Chars? lone (Char.ofNat a.toNat :: read) rest
    else if 0xC2 ≤ a ∧ a ≤ 0xDF then
      match rest with
      | b :: rest =>
        if isContinuation 0x80 0xBF b then
          utf8Chars? lone (Char.ofNat (a.toNat % 32 * 64 + payload b) :: read) rest
        else none
      | _ => none
    else if 0xE0 ≤ a ∧ a ≤ 0xEF then
      match rest with
      | b :: c :: rest =>
        if isContinuation (secondLow a) (secondHigh a) b && isContinuation 0x80 0xBF c then
          utf8Chars? lone
            (Surrogate.scalar lone ((a.toNat % 16 * 64 + payload b) * 64 + payload c) :: read) rest
        else none
      | _ => none
    else if 0xF0 ≤ a ∧ a ≤ 0xF4 then
      match rest with
      | b :: c :: d :: rest =>
        if isContinuation (secondLow a) (secondHigh a) b && isContinuation 0x80 0xBF c &&
            isContinuation 0x80 0xBF d then
          utf8Chars? lone
            (Char.ofNat (((a.toNat % 8 * 64 + payload b) * 64 + payload c) * 64 + payload d)
              :: read) rest
        else none
      | _ => none
    else none

/-- The units of two bytes each, unless a byte is left over. -/
def units16? (bigEndian : Bool) (read : List Nat) : List UInt8 → Option (List Nat)
  | [] => some read.reverse
  | a :: b :: rest =>
    units16? bigEndian
      ((if bigEndian then a.toNat * 256 + b.toNat else b.toNat * 256 + a.toNat) :: read) rest
  | _ => none

/-- Pair the surrogates of UTF-16 units. -/
def pairUnits (lone : Nat → Char) (read : List Char) : List Nat → List Char
  | [] => read.reverse
  | high :: low :: rest =>
    if Surrogate.isHigh high && Surrogate.isLow low then
      pairUnits lone (Surrogate.pair high low :: read) rest
    else pairUnits lone (Surrogate.scalar lone high :: read) (low :: rest)
  | [unit] => (Surrogate.scalar lone unit :: read).reverse

/-- Read UTF-32. -/
def utf32Chars? (lone : Nat → Char) (bigEndian : Bool) (read : List Char) :
    List UInt8 → Option (List Char)
  | [] => some read.reverse
  | a :: b :: c :: d :: rest =>
    let n := if bigEndian then ((a.toNat * 256 + b.toNat) * 256 + c.toNat) * 256 + d.toNat
      else ((d.toNat * 256 + c.toNat) * 256 + b.toNat) * 256 + a.toNat
    if n ≤ 0x10FFFF then utf32Chars? lone bigEndian (Surrogate.scalar lone n :: read) rest else none
  | _ => none

/-- The characters of a byte string in its own encoding, with `lone` for lone surrogates. -/
def decode? (lone : Nat → Char) (bytes : List UInt8) : Option (List Char) :=
  match Encoding.detect bytes with
  | (.utf8, rest) => utf8Chars? lone [] rest
  | (.utf16 bigEndian, rest) => (units16? bigEndian [] rest).map (pairUnits lone [])
  | (.utf32 bigEndian, rest) => utf32Chars? lone bigEndian [] rest

end Calculator.Text
