import Calculator.Json.Printer
import Calculator.Json.Reader
import Calculator.Proofs.Text.Utf8

/-!
# Written JSON is read back

A written text is read back character by character, whether it stands for itself, has an escape of
one letter, or is spelled by its UTF-16 units: two units that make a pair are read as one character.
So nothing in a text that was written without stand-ins is read as a lone surrogate, and it does not
matter what those are read as.

## Main results

* `hexUnit?_hexDigits`: four hexadecimal digits spell the unit they were written for.
* `readString_stringChar`, `readString_marked`: one character, and a whole text.
* `read_render_singleton`: an object with a text as its only member.
-/

namespace Calculator.Json

open Text

/-! ### Escapes -/

/-- A hexadecimal digit has the value it was written for. -/
theorem hexValue?_hexDigit : ∀ n < 16, hexValue? (hexDigit n) = some n := by decide

/-- Four hexadecimal digits spell the unit they were written for. -/
theorem hexUnit?_hexDigits {unit : Nat} (h : unit < 0x10000) :
    ∃ a b c d, hexDigits 4 unit = [a, b, c, d] ∧ hexUnit? a b c d = some unit := by
  refine ⟨hexDigit (unit / 4096 % 16), hexDigit (unit / 256 % 16), hexDigit (unit / 16 % 16),
    hexDigit (unit / 1 % 16), rfl, ?_⟩
  have hvalue (n : Nat) : hexValue? (hexDigit (n % 16)) = some (n % 16) :=
    hexValue?_hexDigit _ (by omega)
  simp only [hexUnit?, hvalue, Option.bind_eq_bind, Option.bind_some, Option.pure_def,
    Option.some.injEq]
  omega

variable {lone : Nat → Char} {read rest : List Char}

/-- The escape of a unit that is half of no pair is read as that unit. -/
private theorem readString_unitEscape {unit : Nat} (h : unit < 0x10000)
    (hhigh : Surrogate.isHigh unit = false) :
    readString lone none read (unitEscape unit ++ rest) =
      readString lone none (Surrogate.scalar lone unit :: read) rest := by
  obtain ⟨a, b, c, d, hdigits, hunit⟩ := hexUnit?_hexDigits h
  simp [unitEscape, hdigits, readString, hunit, hhigh]

/-- The escapes of the two units of a pair are read as one character. -/
private theorem readString_pair {high low : Nat} (hhigh : Surrogate.isHigh high = true)
    (hlow : Surrogate.isLow low = true) :
    readString lone none read (unitEscape high ++ unitEscape low ++ rest) =
      readString lone none (Surrogate.pair high low :: read) rest := by
  have hlt : high < 0x10000 ∧ low < 0x10000 := by
    simp only [Surrogate.isHigh, Surrogate.isLow, Bool.and_eq_true, decide_eq_true_eq] at hhigh hlow
    omega
  obtain ⟨a, b, c, d, hdigits, hunit⟩ := hexUnit?_hexDigits hlt.1
  obtain ⟨a', b', c', d', hdigits', hunit'⟩ := hexUnit?_hexDigits hlt.2
  simp [unitEscape, hdigits, hdigits', readString, hunit, hunit', hhigh, hlow]

/-- The escape of a character is read as that character. -/
private theorem readString_charEscape (c : Char) :
    readString lone none read (charEscape c ++ rest) = readString lone none (c :: read) rest := by
  have hscalar := Surrogate.scalar_codePoint lone c
  have hchar : Char.ofNat c.val.toNat = c := Char.ofNat_toNat c
  have hrange := codePoint_lt c
  rw [charEscape]
  generalize c.val.toNat = n at hscalar hchar hrange ⊢
  split_ifs with hone
  · have hhigh : Surrogate.isHigh n = false := by
      simp only [Surrogate.isHigh, Bool.and_eq_false_iff, decide_eq_false_iff_not]
      omega
    rw [readString_unitEscape hone hhigh, hscalar]
  · have hpair : Surrogate.pair (0xD800 + (n - 0x10000) / 0x400) (0xDC00 + (n - 0x10000) % 0x400) =
        c := by
      have hpoint : 0x10000 + (0xD800 + (n - 0x10000) / 0x400 - 0xD800) * 0x400 +
          (0xDC00 + (n - 0x10000) % 0x400 - 0xDC00) = n := by omega
      rw [Surrogate.pair, hpoint, hchar]
    rw [readString_pair, hpair]
    · simp only [Surrogate.isHigh, Bool.and_eq_true, decide_eq_true_eq]
      omega
    · simp only [Surrogate.isLow, Bool.and_eq_true, decide_eq_true_eq]
      omega

/-! ### Texts -/

/-- Without stand-ins, a character is escaped by its UTF-16 units. -/
theorem Layout.escape_eq {layout : Layout} (h : layout.standIns = none) (c : Char) :
    layout.escape c = charEscape c := by
  rw [escape, h]

/-- One character of a written text is read back. -/
theorem readString_stringChar {layout : Layout} (hlayout : layout.standIns = none) (c : Char) :
    readString lone none read (stringChar layout c ++ rest) =
      readString lone none (c :: read) rest := by
  rw [stringChar, layout.escape_eq hlayout]
  split_ifs with hmark hslash hline hreturn htab hfeed hback hcontrol hbeyond
  all_goals try (subst c; simp [readString, simpleEscape?, settle])
  · exact readString_charEscape c
  · exact readString_charEscape c
  · have hplain : (decide (c = '\\') || decide (c.val.toNat < 0x20)) = false := by
      rw [Bool.or_eq_false_iff, decide_eq_false_iff_not, decide_eq_false_iff_not]
      exact ⟨hslash, hcontrol⟩
    -- only the last pattern, of a character that stands for itself, takes such a character
    rw [List.singleton_append, readString.eq_def]
    split
    case h_5 heq =>
      obtain ⟨rfl, rfl⟩ := List.cons.inj heq
      simp only [hplain, Bool.false_eq_true, if_false, settle]
    all_goals simp_all

/-- Characters of a written text are read back up to its closing mark. -/
private theorem readString_flatMap {layout : Layout} (hlayout : layout.standIns = none)
    (chars : List Char) :
    readString lone none read (chars.flatMap (stringChar layout) ++ '"' :: rest) =
      some (String.ofList (read.reverse ++ chars), rest) := by
  induction chars generalizing read with
  | nil => simp [readString, settle]
  | cons c chars ih =>
      rw [List.flatMap_cons, List.append_assoc, readString_stringChar hlayout, ih,
        List.reverse_cons, List.append_assoc, List.singleton_append]

/-- The characters between the marks of a written text. -/
def marked (layout : Layout) (text : String) : List Char :=
  text.toList.flatMap (stringChar layout)

/-- A written text is read back. -/
theorem readString_marked (lone : Nat → Char) {layout : Layout} (hlayout : layout.standIns = none)
    (text : String) (rest : List Char) :
    readString lone none [] (marked layout text ++ '"' :: rest) = some (text, rest) := by
  rw [marked, readString_flatMap hlayout, List.reverse_nil, List.nil_append, String.ofList_toList]

/-! ### Objects -/

/-- A written text is a value. -/
private theorem readValue_marked (lone : Nat → Char) {layout : Layout}
    (hlayout : layout.standIns = none) (text : String) (fuel depth : Nat) (rest : List Char) :
    readValue lone (fuel + 1) depth ('"' :: (marked layout text ++ '"' :: rest)) =
      .ok (.str text, rest) := by
  have hscalar : readScalar lone ('"' :: (marked layout text ++ '"' :: rest)) =
      some (.str text, rest) := by
    simp [readScalar, readString_marked lone hlayout]
  simp [readValue, hscalar]

/-- An object that does not end at once has members. -/
private theorem readValue_members (lone : Nat → Char) (fuel depth : Nat) (chars : List Char) :
    readValue lone (fuel + 1) (depth + 1) ('\x7b' :: '"' :: chars) =
      readMembers lone fuel depth [] ('"' :: chars) := by
  rw [readValue]
  rfl

/-- In both layouts a colon stands between a key and its value, and besides only spaces. -/
private theorem skipSpaces_keySeparator {layout : Layout}
    (h : layout = .compact ∨ layout = .spaced) (rest : List Char) :
    ∃ after, skipSpaces (layout.keySeparator.toList ++ '"' :: rest) = ':' :: after ∧
      skipSpaces after = '"' :: rest := by
  rcases h with rfl | rfl
  · exact ⟨'"' :: rest, rfl, rfl⟩
  · exact ⟨' ' :: '"' :: rest, rfl, rfl⟩

/-- The characters of a written object with a text as its only member. -/
theorem toList_render_singleton (layout : Layout) (key text : String) :
    (render layout (.obj [(key, .str text)])).toList =
      '\x7b' :: '"' :: (marked layout key ++ '"' :: (layout.keySeparator.toList ++
        '"' :: (marked layout text ++ ['"', '\x7d']))) := by
  simp [render, renderMembers, renderString, marked]

/-- An object with a text as its only member is read back, whatever lone surrogates are read as. -/
theorem read_render_singleton (lone : Nat → Char) {layout : Layout}
    (hlayout : layout = .compact ∨ layout = .spaced) (depth : Nat) (key text : String) :
    Json.read lone (depth + 1) (render layout (.obj [(key, .str text)])).toList =
      .ok (.obj [(key, .str text)]) := by
  have hwhole : layout.standIns = none := by rcases hlayout with rfl | rfl <;> rfl
  obtain ⟨after, hcolon, hvalue⟩ := skipSpaces_keySeparator hlayout
    (marked layout text ++ ['"', '\x7d'])
  have hmembers (fuel : Nat) : readMembers lone (fuel + 2) depth [] ('"' ::
      (marked layout key ++ '"' :: (layout.keySeparator.toList ++
        '"' :: (marked layout text ++ ['"', '\x7d'])))) =
      .ok (.obj [(key, .str text)], []) := by
    simp only [readMembers, readString_marked lone hwhole, hcolon, hvalue,
      readValue_marked lone hwhole]
    rfl
  obtain ⟨fuel, hfuel⟩ : ∃ fuel,
      2 * (render layout (.obj [(key, .str text)])).toList.length + 2 = fuel + 3 := by
    refine ⟨2 * (render layout (.obj [(key, .str text)])).toList.length - 1, ?_⟩
    simp only [toList_render_singleton, List.length_cons]
    omega
  have hopen (chars : List Char) : skipSpaces ('\x7b' :: chars) = '\x7b' :: chars := rfl
  rw [Json.read, hfuel, toList_render_singleton, hopen, readValue_members, hmembers]
  rfl

end Calculator.Json
