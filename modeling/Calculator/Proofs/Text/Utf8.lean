import Calculator.Text.Encoding
import Mathlib.Data.List.Basic

/-!
# Texts in UTF-8

The bytes of a text in UTF-8 are read back as its characters, whatever lone surrogates are read as:
no character is one. A text that begins with two ASCII characters, neither of them zero, is also
taken for UTF-8, since its bytes begin with no byte order mark and with no zero.

## Main results

* `utf8Chars?_append`: the bytes of one character are read as that character.
* `decode?_of_ascii`: a text that begins with two ASCII characters is read back.
-/

namespace Calculator.Text

/-! ### The bytes of a text -/

/-- The rest of a byte array from a position on. -/
private theorem toList_loop (bytes : ByteArray) (position : Nat) (read : List UInt8) :
    ByteArray.toList.loop bytes position read =
      read.reverse ++ bytes.data.toList.drop position := by
  fun_induction ByteArray.toList.loop bytes position read with
  | case1 position read hlt ih =>
      have hlength : position < bytes.data.toList.length := by simpa using hlt
      rw [ih, List.drop_eq_getElem_cons hlength]
      simp [ByteArray.get!, hlt]
  | case2 position read hge =>
      rw [List.drop_eq_nil_of_le (by simpa using Nat.le_of_not_lt hge), List.append_nil]

/-- The bytes of a text are those of its characters, in order. -/
theorem toList_toUTF8 (text : String) :
    text.toUTF8.toList = text.toList.flatMap String.utf8EncodeChar := by
  rw [String.toUTF8_eq_toByteArray, ← String.utf8Encode_toList, List.utf8Encode, ByteArray.toList,
    toList_loop, List.toList_data_toByteArray]
  rfl

/-! ### One character -/

/-- The number of a byte that is small enough. -/
private theorem toNat_byte {n : Nat} (h : n < 256) : (UInt8.ofNat n).toNat = n := by
  rw [UInt8.toNat_ofNat']
  exact Nat.mod_eq_of_lt h

/-- Bytes are compared by their numbers. -/
private theorem byte_lt {n : Nat} (h : n < 256) {high : UInt8} :
    UInt8.ofNat n < high ↔ n < high.toNat := by
  rw [UInt8.lt_iff_toNat_lt, toNat_byte h]

/-- Bytes are compared by their numbers. -/
private theorem byte_between {n : Nat} (h : n < 256) {low high : UInt8} :
    low ≤ UInt8.ofNat n ∧ UInt8.ofNat n ≤ high ↔ low.toNat ≤ n ∧ n ≤ high.toNat := by
  rw [UInt8.le_iff_toNat_le, UInt8.le_iff_toNat_le, toNat_byte h]

/-- A continuation byte has the six bits it was made for. -/
private theorem payload_byte {n : Nat} (h : n < 64) : payload (UInt8.ofNat (n + 0x80)) = n := by
  rw [payload, toNat_byte (by omega)]
  omega

/-- A byte between the two bounds continues a character. -/
private theorem isContinuation_byte {low high : UInt8} {n : Nat} (h : n < 256)
    (hlow : low.toNat ≤ n) (hhigh : n ≤ high.toNat) :
    isContinuation low high (UInt8.ofNat n) = true := by
  simpa [isContinuation] using (byte_between h).mpr ⟨hlow, hhigh⟩

/-- Six bits after the mark of a continuation byte continue a character. -/
private theorem isContinuation_payload {n : Nat} (h : n < 64) :
    isContinuation 0x80 0xBF (UInt8.ofNat (n + 0x80)) = true :=
  isContinuation_byte (by omega) (by simp) (by simp; omega)

/-- The code point of a character is no surrogate, and not too large. -/
theorem codePoint_lt (c : Char) :
    c.val.toNat < 0xD800 ∨ 0xDFFF < c.val.toNat ∧ c.val.toNat < 0x110000 := by
  have hvalid := c.valid
  rw [UInt32.isValidChar, Nat.isValidChar] at hvalid
  omega

/-- A character is not read as a lone surrogate. -/
theorem Surrogate.scalar_codePoint (lone : Nat → Char) (c : Char) :
    Surrogate.scalar lone c.val.toNat = c := by
  have hplain : Surrogate.isSurrogate c.val.toNat = false := by
    have hrange := codePoint_lt c
    simp only [Surrogate.isSurrogate, Bool.and_eq_false_iff, decide_eq_false_iff_not]
    omega
  rw [Surrogate.scalar, hplain]
  exact Char.ofNat_toNat c

variable {lone : Nat → Char} {read : List Char} {rest : List UInt8}

/-- One byte. -/
private theorem utf8Chars?_one {n : Nat} (h : n < 0x80) :
    utf8Chars? lone read (UInt8.ofNat n :: rest) = utf8Chars? lone (Char.ofNat n :: read) rest := by
  have hone : UInt8.ofNat n < 0x80 := (byte_lt (by omega)).mpr h
  simp only [utf8Chars?.eq_def lone read, if_pos hone, toNat_byte (show n < 256 by omega)]

/-- Two bytes: five and six bits, more than fit into one byte. -/
private theorem utf8Chars?_two {n b : Nat} (hn : n < 32) (hb : b < 64) (hlong : 0x80 ≤ n * 64 + b) :
    utf8Chars? lone read (UInt8.ofNat (n + 0xC0) :: UInt8.ofNat (b + 0x80) :: rest) =
      utf8Chars? lone (Char.ofNat (n * 64 + b) :: read) rest := by
  have hbyte : n + 0xC0 < 256 := by omega
  have hbits : (n + 0xC0) % 32 = n := by omega
  have hone : ¬ UInt8.ofNat (n + 0xC0) < 0x80 := by
    rw [byte_lt hbyte]
    simp
  have htwo : 0xC2 ≤ UInt8.ofNat (n + 0xC0) ∧ UInt8.ofNat (n + 0xC0) ≤ 0xDF :=
    (byte_between hbyte).mpr ⟨by simp; omega, by simp; omega⟩
  simp only [utf8Chars?.eq_def lone read, if_neg hone, if_pos htwo, isContinuation_payload hb,
    if_true, toNat_byte hbyte, hbits, payload_byte hb]

/-- Three bytes: four, six and six bits, more than fit into two bytes. -/
private theorem utf8Chars?_three {n b c : Nat} (hn : n < 16) (hb : b < 64) (hc : c < 64)
    (hlong : 0x800 ≤ (n * 64 + b) * 64 + c) :
    utf8Chars? lone read
        (UInt8.ofNat (n + 0xE0) :: UInt8.ofNat (b + 0x80) :: UInt8.ofNat (c + 0x80) :: rest) =
      utf8Chars? lone (Surrogate.scalar lone ((n * 64 + b) * 64 + c) :: read) rest := by
  have hbyte : n + 0xE0 < 256 := by omega
  have hbits : (n + 0xE0) % 16 = n := by omega
  have hone : ¬ UInt8.ofNat (n + 0xE0) < 0x80 := by
    rw [byte_lt hbyte]
    simp
  have htwo : ¬ (0xC2 ≤ UInt8.ofNat (n + 0xE0) ∧ UInt8.ofNat (n + 0xE0) ≤ 0xDF) := by
    rw [byte_between hbyte]
    simp
  have hthree : 0xE0 ≤ UInt8.ofNat (n + 0xE0) ∧ UInt8.ofNat (n + 0xE0) ≤ 0xEF :=
    (byte_between hbyte).mpr ⟨by simp, by simp; omega⟩
  -- the least second byte is greater after the first byte `0xE0`, which begins the longest forms
  have hsecond : isContinuation (secondLow (UInt8.ofNat (n + 0xE0)))
      (secondHigh (UInt8.ofNat (n + 0xE0))) (UInt8.ofNat (b + 0x80)) = true := by
    refine isContinuation_byte (by omega) ?_ ?_ <;>
      simp only [secondLow, secondHigh, ← UInt8.toNat_inj, toNat_byte hbyte, UInt8.reduceToNat] <;>
      split_ifs <;> simp <;> omega
  simp only [utf8Chars?.eq_def lone read, if_neg hone, if_neg htwo, if_pos hthree, hsecond,
    isContinuation_payload hc, Bool.and_self, if_true, toNat_byte hbyte, hbits, payload_byte hb,
    payload_byte hc]

/-- Four bytes: three, six, six and six bits, more than fit into three bytes, and no more than the
last code point. -/
private theorem utf8Chars?_four {n b c d : Nat} (hb : b < 64) (hc : c < 64) (hd : d < 64)
    (hlong : 0x10000 ≤ ((n * 64 + b) * 64 + c) * 64 + d)
    (hlast : ((n * 64 + b) * 64 + c) * 64 + d < 0x110000) :
    utf8Chars? lone read
        (UInt8.ofNat (n + 0xF0) :: UInt8.ofNat (b + 0x80) :: UInt8.ofNat (c + 0x80) ::
          UInt8.ofNat (d + 0x80) :: rest) =
      utf8Chars? lone (Char.ofNat (((n * 64 + b) * 64 + c) * 64 + d) :: read) rest := by
  have hbyte : n + 0xF0 < 256 := by omega
  have hbits : (n + 0xF0) % 8 = n := by omega
  have hone : ¬ UInt8.ofNat (n + 0xF0) < 0x80 := by
    rw [byte_lt hbyte]
    simp
  have htwo : ¬ (0xC2 ≤ UInt8.ofNat (n + 0xF0) ∧ UInt8.ofNat (n + 0xF0) ≤ 0xDF) := by
    rw [byte_between hbyte]
    simp
  have hthree : ¬ (0xE0 ≤ UInt8.ofNat (n + 0xF0) ∧ UInt8.ofNat (n + 0xF0) ≤ 0xEF) := by
    rw [byte_between hbyte]
    simp
  have hfour : 0xF0 ≤ UInt8.ofNat (n + 0xF0) ∧ UInt8.ofNat (n + 0xF0) ≤ 0xF4 :=
    (byte_between hbyte).mpr ⟨by simp, by simp; omega⟩
  -- `0xF0` begins the longest forms, and `0xF4` the last code points
  have hsecond : isContinuation (secondLow (UInt8.ofNat (n + 0xF0)))
      (secondHigh (UInt8.ofNat (n + 0xF0))) (UInt8.ofNat (b + 0x80)) = true := by
    refine isContinuation_byte (by omega) ?_ ?_ <;>
      simp only [secondLow, secondHigh, ← UInt8.toNat_inj, toNat_byte hbyte, UInt8.reduceToNat] <;>
      split_ifs <;> simp <;> omega
  simp only [utf8Chars?.eq_def lone read, if_neg hone, if_neg htwo, if_neg hthree, if_pos hfour,
    hsecond, isContinuation_payload hc, isContinuation_payload hd, Bool.and_self, if_true,
    toNat_byte hbyte, hbits, payload_byte hb, payload_byte hc, payload_byte hd]

/-- The bytes of one character are read as that character. -/
theorem utf8Chars?_append (lone : Nat → Char) (read : List Char) (c : Char) (rest : List UInt8) :
    utf8Chars? lone read (String.utf8EncodeChar c ++ rest) = utf8Chars? lone (c :: read) rest := by
  have hchar : Char.ofNat c.val.toNat = c := Char.ofNat_toNat c
  have hscalar := Surrogate.scalar_codePoint lone c
  have hrange := codePoint_lt c
  rw [String.utf8EncodeChar.eq_1]
  generalize c.val.toNat = n at hchar hscalar hrange ⊢
  subst hchar
  split_ifs with hone htwo hthree
  · exact utf8Chars?_one (by omega)
  · rw [List.cons_append, List.cons_append, List.nil_append,
      utf8Chars?_two (by omega) (by omega) (by omega)]
    congr 3
    omega
  · rw [List.cons_append, List.cons_append, List.cons_append, List.nil_append,
      utf8Chars?_three (by omega) (by omega) (by omega) (by omega), ← hscalar]
    congr 3
    omega
  · rw [List.cons_append, List.cons_append, List.cons_append, List.cons_append, List.nil_append,
      utf8Chars?_four (by omega) (by omega) (by omega) (by omega) (by omega)]
    congr 3
    omega

/-! ### Whole texts -/

/-- The bytes of characters are read as these characters. -/
theorem utf8Chars?_flatMap (lone : Nat → Char) (read chars : List Char) :
    utf8Chars? lone read (chars.flatMap String.utf8EncodeChar) = some (read.reverse ++ chars) := by
  induction chars generalizing read with
  | nil => simp [utf8Chars?]
  | cons c rest ih => rw [List.flatMap_cons, utf8Chars?_append, ih, List.reverse_cons,
      List.append_assoc, List.singleton_append]

/-- Bytes that begin with two ASCII characters, neither of them zero, are taken for UTF-8. -/
private theorem detect_of_ascii {a b : UInt8} (ha : a ≠ 0) (hascii : a < 0x80) (hb : b ≠ 0)
    (rest : List UInt8) : Encoding.detect (a :: b :: rest) = (.utf8, a :: b :: rest) := by
  have hmark : ∀ byte : UInt8, 0x80 ≤ byte → a ≠ byte := by
    rintro byte hbyte rfl
    exact absurd hascii (UInt8.not_lt.mpr hbyte)
  rw [Encoding.detect]
  · congr 1
    rw [Encoding.ofZeros.eq_def]
    split <;> simp_all
  · rintro rest' ⟨⟩
    exact ha rfl
  · rintro rest' ⟨⟩
    exact hmark 0xFF (by decide) rfl
  · rintro rest' ⟨⟩
    exact hmark 0xFE (by decide) rfl
  · rintro rest' ⟨⟩
    exact hmark 0xFF (by decide) rfl
  · rintro rest' ⟨⟩
    exact hmark 0xEF (by decide) rfl

/-- An ASCII character other than zero is one byte other than zero. -/
private theorem utf8EncodeChar_of_ascii {c : Char} (hne : c ≠ '\x00')
    (hascii : c.val.toNat < 0x80) :
    ∃ byte : UInt8, byte ≠ 0 ∧ byte < 0x80 ∧ String.utf8EncodeChar c = [byte] := by
  refine ⟨UInt8.ofNat c.val.toNat, fun hzero => hne ?_, ?_, ?_⟩
  · have hnat := congrArg UInt8.toNat hzero
    rw [toNat_byte (by omega)] at hnat
    exact Char.ext (UInt32.toNat_inj.mp hnat)
  · rw [UInt8.lt_iff_toNat_lt, toNat_byte (by omega)]
    exact hascii
  · rw [String.utf8EncodeChar.eq_1]
    exact if_pos (by omega)

/-- A text that begins with two ASCII characters, neither of them zero, is read back. -/
theorem decode?_of_ascii (lone : Nat → Char) {a b : Char} (ha : a ≠ '\x00') (hb : b ≠ '\x00')
    (hasciia : a.val.toNat < 0x80) (hasciib : b.val.toNat < 0x80) {text : String} {rest : List Char}
    (htext : text.toList = a :: b :: rest) :
    decode? lone text.toUTF8.toList = some text.toList := by
  obtain ⟨first, hfirst, hlt, hencodea⟩ := utf8EncodeChar_of_ascii ha hasciia
  obtain ⟨second, hsecond, -, hencodeb⟩ := utf8EncodeChar_of_ascii hb hasciib
  have hbytes : text.toUTF8.toList = first :: second :: rest.flatMap String.utf8EncodeChar := by
    rw [toList_toUTF8, htext, List.flatMap_cons, List.flatMap_cons, hencodea, hencodeb]
    rfl
  have hdetect : Encoding.detect text.toUTF8.toList = (.utf8, text.toUTF8.toList) := by
    rw [hbytes]
    exact detect_of_ascii hfirst hlt hsecond _
  rw [decode?, hdetect]
  dsimp only
  rw [toList_toUTF8, utf8Chars?_flatMap, List.reverse_nil, List.nil_append]

end Calculator.Text
