import Calculator.Postfix.Evaluation
import Mathlib.Data.List.TakeWhile
import Mathlib.Data.Nat.Digits.Defs

/-!
# Reading tokens

What a text has to look like to be read as a token. Number literals are given by their grammar,
`-?([0-9]+(\.[0-9]*)?|\.[0-9]+)`; every other token is a single character.

## Main definitions

* `Numeral.Unsigned`, `Numeral.Literal`: the grammar of literals.
* `Numeral.Spells`: the decimal that a literal spells.
* `Token.Spelled`: the tokens that texts are read as, each with its spelling.

## Main results

* `Numeral.isLiteral_iff`: the test for literals accepts the grammar.
* `Numeral.value_of_spells`: the value of a literal is that of the decimal it spells.
* `Token.ofText?_eq_some_iff`: a text is read as the token that is spelled like it.
* `readTexts_eq_ok_iff`: **texts are read one by one**, or not at all.
-/

namespace Calculator

namespace Numeral

/-! ### The grammar of literals -/

/-- Literals without a sign: digits, digits around a point, or digits behind a point. -/
inductive Unsigned : List Char → Prop
  | whole {digits : List Char} (hne : digits ≠ []) (hdigits : ∀ c ∈ digits, isDigit c = true) :
      Unsigned digits
  | decimal {digits fraction : List Char} (hne : digits ≠ [])
      (hdigits : ∀ c ∈ digits, isDigit c = true) (hfraction : ∀ c ∈ fraction, isDigit c = true) :
      Unsigned (digits ++ '.' :: fraction)
  | fraction {fraction : List Char} (hne : fraction ≠ [])
      (hfraction : ∀ c ∈ fraction, isDigit c = true) : Unsigned ('.' :: fraction)

/-- Literals, with or without a minus sign. -/
inductive Literal : List Char → Prop
  | unsigned {chars : List Char} (h : Unsigned chars) : Literal chars
  | signed {chars : List Char} (h : Unsigned chars) : Literal ('-' :: chars)

/-- Digits before a point are cut off at the point. -/
private theorem isUnsigned_point {digits : List Char} (fraction : List Char)
    (hdigits : ∀ c ∈ digits, isDigit c = true) :
    isUnsigned (digits ++ '.' :: fraction) =
      (fraction.all isDigit && !(digits.isEmpty && fraction.isEmpty)) := by
  have hpoint : isDigit '.' = false := by decide
  have htake : (digits ++ '.' :: fraction).takeWhile isDigit = digits := by
    rw [List.takeWhile_append_of_pos hdigits]
    simp [hpoint]
  have hdrop : (digits ++ '.' :: fraction).dropWhile isDigit = '.' :: fraction := by
    rw [List.dropWhile_append_of_pos hdigits]
    simp [hpoint]
  unfold isUnsigned
  rw [htake, hdrop]
  simp

/-- The test for literals without a sign accepts their grammar. -/
theorem isUnsigned_iff (chars : List Char) : isUnsigned chars = true ↔ Unsigned chars := by
  constructor
  · intro h
    have hwhole : ∀ c ∈ chars.takeWhile isDigit, isDigit c = true :=
      fun c hc => List.mem_takeWhile_imp hc
    have hsplit : chars.takeWhile isDigit ++ chars.dropWhile isDigit = chars :=
      List.takeWhile_append_dropWhile
    unfold isUnsigned at h
    cases hrest : chars.dropWhile isDigit with
    | nil =>
        rw [hrest, List.append_nil] at hsplit
        rw [hrest] at h
        rw [← hsplit]
        exact .whole (by simpa using h) hwhole
    | cons c fraction =>
        rw [hrest] at h hsplit
        simp only [Bool.and_eq_true, decide_eq_true_eq, List.all_eq_true] at h
        obtain ⟨⟨rfl, hfraction⟩, hnot⟩ := h
        rw [← hsplit]
        by_cases hne : chars.takeWhile isDigit = []
        · rw [hne, List.nil_append]
          exact .fraction (by simpa [hne] using hnot) hfraction
        · exact .decimal hne hwhole hfraction
  · intro h
    cases h with
    | whole hne hdigits =>
        have htake : chars.takeWhile isDigit = chars := List.takeWhile_eq_self_iff.mpr hdigits
        have hdrop : chars.dropWhile isDigit = [] := List.dropWhile_eq_nil_iff.mpr hdigits
        simp [isUnsigned, htake, hdrop, hne]
    | @decimal digits fraction hne hdigits hfraction =>
        rw [isUnsigned_point fraction hdigits]
        simpa [hne] using hfraction
    | @fraction fraction hne hfraction =>
        have hpoint : ∀ c ∈ ([] : List Char), isDigit c = true := by simp
        rw [← List.nil_append ('.' :: fraction), isUnsigned_point fraction hpoint]
        simpa [hne] using hfraction

/-- The characters of a literal without a sign are digits and points. -/
theorem Unsigned.isDigit_or_eq {chars : List Char} (h : Unsigned chars) :
    ∀ c ∈ chars, isDigit c = true ∨ c = '.' := by
  intro c hc
  cases h with
  | whole _ hdigits => exact Or.inl (hdigits c hc)
  | decimal _ hdigits hfraction =>
      rcases List.mem_append.mp hc with hc | hc
      · exact Or.inl (hdigits c hc)
      · rcases List.mem_cons.mp hc with rfl | hc
        · exact Or.inr rfl
        · exact Or.inl (hfraction c hc)
  | fraction _ hfraction =>
      rcases List.mem_cons.mp hc with rfl | hc
      · exact Or.inr rfl
      · exact Or.inl (hfraction c hc)

/-- A literal without a sign is not empty. -/
theorem Unsigned.ne_nil {chars : List Char} (h : Unsigned chars) : chars ≠ [] := by
  cases h with
  | whole hne _ => exact hne
  | decimal => simp
  | fraction => simp

/-- The test for literals accepts their grammar. -/
theorem isLiteral_iff (chars : List Char) : isLiteral chars = true ↔ Literal chars := by
  constructor
  · intro h
    rcases chars with - | ⟨c, rest⟩
    · simp [isLiteral] at h
    by_cases hsign : c = '-'
    · subst hsign
      exact .signed ((isUnsigned_iff rest).mp (by simpa [isLiteral] using h))
    · exact .unsigned ((isUnsigned_iff (c :: rest)).mp (by simpa [isLiteral, hsign] using h))
  · intro h
    cases h with
    | signed h => simpa [isLiteral] using (isUnsigned_iff _).mpr h
    | unsigned h =>
        obtain ⟨c, rest, rfl⟩ := List.exists_cons_of_ne_nil h.ne_nil
        have hsign : c ≠ '-' := by
          rintro rfl
          rcases h.isDigit_or_eq '-' (by simp) with hc | hc
          · exact absurd hc (by decide)
          · exact absurd hc (by decide)
        simpa [isLiteral, hsign] using (isUnsigned_iff _).mpr h

instance : DecidablePred Literal := fun chars => decidable_of_iff _ (isLiteral_iff chars)

/-! ### The decimals of literals -/

/-- The number that digits make up, the most significant first. -/
def numberOf (digits : List Char) : Nat :=
  Nat.ofDigits 10 (digits.reverse.map fun c => c.toNat - '0'.toNat)

/-- `Spells chars negative n places`: the characters spell the decimal `n / 10 ^ places`, or its
opposite if `negative` is set. Without a point there are no places. -/
inductive Spells : List Char → Bool → Nat → Nat → Prop
  | whole {digits : List Char} (hne : digits ≠ []) (hdigits : ∀ c ∈ digits, isDigit c = true) :
      Spells digits false (numberOf digits) 0
  | decimal {digits fraction : List Char} (hdigits : ∀ c ∈ digits, isDigit c = true)
      (hfraction : ∀ c ∈ fraction, isDigit c = true) :
      Spells (digits ++ '.' :: fraction) false (numberOf (digits ++ fraction)) fraction.length
  | negative {chars : List Char} {n places : Nat} (h : Spells chars false n places) :
      Spells ('-' :: chars) true n places

/-- Every literal spells a decimal. -/
theorem Literal.exists_spells {chars : List Char} (h : Literal chars) :
    ∃ negative n places, Spells chars negative n places := by
  have hunsigned {chars : List Char} (h : Unsigned chars) :
      ∃ n places, Spells chars false n places := by
    cases h with
    | whole hne hdigits => exact ⟨_, _, .whole hne hdigits⟩
    | decimal _ hdigits hfraction => exact ⟨_, _, .decimal hdigits hfraction⟩
    | fraction _ hfraction => exact ⟨_, _, @Spells.decimal [] _ (by simp) hfraction⟩
  cases h with
  | unsigned h => exact ⟨false, hunsigned h⟩
  | signed h =>
      obtain ⟨n, places, hspells⟩ := hunsigned h
      exact ⟨true, n, places, .negative hspells⟩

/-- The digits are read as the number that they make up. -/
theorem numberOfDigits_eq (digits : List Char) :
    Text.numberOfDigits (digits.map Text.asciiDigit) = numberOf digits := by
  rw [Text.numberOfDigits, numberOf, Nat.ofDigits_eq_foldr, List.foldr_map, List.foldr_reverse,
    List.foldl_map]
  congr 1
  funext n c
  exact Nat.add_comm _ _

/-- Digits and further digits behind a point are read as the decimal that they spell. -/
private theorem unsignedValue_point {digits fraction : List Char}
    (hdigits : ∀ c ∈ digits, isDigit c = true) :
    unsignedValue (digits ++ '.' :: fraction) =
      Decimal.nearest (numberOf (digits ++ fraction)) (-fraction.length) := by
  have hpoint : isDigit '.' = false := by decide
  have htake : (digits ++ '.' :: fraction).takeWhile isDigit = digits := by
    rw [List.takeWhile_append_of_pos hdigits]
    simp [hpoint]
  have hdrop : (digits ++ '.' :: fraction).dropWhile isDigit = '.' :: fraction := by
    rw [List.dropWhile_append_of_pos hdigits]
    simp [hpoint]
  simp only [unsignedValue, htake, hdrop, List.drop_succ_cons, List.drop_zero, numberOfDigits_eq]

/-- **A literal has the value that it spells**: the float nearest to the decimal, with its sign. -/
theorem value_of_spells {chars : List Char} {negative : Bool} {n places : Nat}
    (h : Spells chars negative n places) :
    value chars =
      if negative then -(Float.ofScientific n (0 < places) places)
      else Float.ofScientific n (0 < places) places := by
  have hnearest (n places : Nat) :
      Decimal.nearest n (-places) = Float.ofScientific n (0 < places) places := by
    simp [Decimal.nearest]
  -- the sign is taken off first, so that what is left begins with a digit or the point
  have hunsigned {chars : List Char} {n places : Nat} (h : Spells chars false n places) :
      chars.head? ≠ some '-' ∧ chars ≠ [] ∧
        unsignedValue chars = Float.ofScientific n (0 < places) places := by
    have hsign : isDigit '-' = false := by decide
    cases h with
    | whole hne hdigits =>
        obtain ⟨c, rest, rfl⟩ := List.exists_cons_of_ne_nil hne
        have htake : (c :: rest).takeWhile isDigit = c :: rest :=
          List.takeWhile_eq_self_iff.mpr hdigits
        have hdrop : (c :: rest).dropWhile isDigit = [] := List.dropWhile_eq_nil_iff.mpr hdigits
        refine ⟨?_, hne, ?_⟩
        · rintro hminus
          obtain rfl : c = '-' := by simpa using hminus
          simpa [hsign] using hdigits '-'
        · rw [← hnearest, unsignedValue, htake, hdrop]
          simp only [List.drop_nil, List.append_nil, numberOfDigits_eq, List.length_nil]
    | @decimal digits fraction hdigits hfraction =>
        refine ⟨?_, by simp, ?_⟩
        · cases digits with
          | nil => simp
          | cons c rest =>
              rintro hminus
              obtain rfl : c = '-' := by simpa using hminus
              simpa [hsign] using hdigits '-'
        · rw [← hnearest, unsignedValue_point hdigits]
  cases h with
  | negative h => simp [value, (hunsigned h).2.2]
  | whole hne hdigits =>
      obtain ⟨hminus, -, hvalue⟩ := hunsigned (.whole hne hdigits)
      obtain ⟨c, rest, rfl⟩ := List.exists_cons_of_ne_nil hne
      have hc : c ≠ '-' := by simpa using hminus
      simp [value, hc, hvalue]
  | @decimal digits fraction hdigits hfraction =>
      obtain ⟨hminus, hne, hvalue⟩ := hunsigned (.decimal hdigits hfraction)
      obtain ⟨c, rest, hchars⟩ := List.exists_cons_of_ne_nil hne
      rw [hchars] at hminus hvalue ⊢
      have hc : c ≠ '-' := by simpa using hminus
      simp [value, hc, hvalue]

end Numeral

namespace Token

/-! ### Spellings -/

/-- The tokens that texts are read as: a number is spelled as a literal and has its value, and
every other token is spelled in one way and has no value. -/
inductive Spelled : Token → Prop
  | number {text : String} (h : Numeral.Literal text.toList) :
      Spelled { kind := .number, text, value := some (Numeral.value text.toList) }
  | operator (o : Operator) : Spelled { kind := .operator, text := o.symbol }
  | leftParen : Spelled { kind := .leftParen, text := "(" }
  | rightParen : Spelled { kind := .rightParen, text := ")" }

/-- What a text is read as is spelled like the text. -/
private theorem spelled_of_ofText? {text : String} {token : Token}
    (h : ofText? text = some token) : token.text = text ∧ token.Spelled := by
  unfold ofText? at h
  split at h
  case isTrue hliteral =>
    obtain rfl := Option.some.inj h
    exact ⟨rfl, .number ((Numeral.isLiteral_iff _).mp hliteral)⟩
  split at h
  case isTrue hoperator =>
    obtain rfl := Option.some.inj h
    obtain ⟨o, ho⟩ := Option.isSome_iff_exists.mp hoperator
    obtain rfl := Operator.symbol_of_ofSymbol? ho
    exact ⟨rfl, .operator o⟩
  split at h
  case isTrue hparen =>
    obtain rfl := Option.some.inj h
    subst hparen
    exact ⟨rfl, .leftParen⟩
  split at h
  case isTrue hparen =>
    obtain rfl := Option.some.inj h
    subst hparen
    exact ⟨rfl, .rightParen⟩
  case isFalse => simp at h

/-- The spelling of a token is read as the token. -/
theorem Spelled.ofText?_text {token : Token} (h : token.Spelled) :
    ofText? token.text = some token := by
  cases h with
  | number hliteral => simp [ofText?, (Numeral.isLiteral_iff _).mpr hliteral]
  | operator o => cases o <;> rfl
  | leftParen => rfl
  | rightParen => rfl

/-- A text is read as the token that is spelled like it. -/
theorem ofText?_eq_some_iff {text : String} {token : Token} :
    ofText? text = some token ↔ token.text = text ∧ token.Spelled := by
  constructor
  · exact spelled_of_ofText?
  · rintro ⟨rfl, h⟩
    exact h.ofText?_text

end Token

/-! ### Reading many texts -/

/-- What is read behind tokens that were read before. -/
private theorem readInto_eq_ok_iff {texts : List String} {read tokens : List Token} :
    readInto read (texts.map .text) = .ok tokens ↔
      ∃ rest, tokens = read.reverse ++ rest ∧ rest.map (·.text) = texts ∧
        ∀ token ∈ rest, token.Spelled := by
  induction texts generalizing read with
  | nil =>
      simp only [List.map_nil, readInto, Except.ok.injEq, List.map_eq_nil_iff]
      constructor
      · rintro rfl
        exact ⟨[], by simp, rfl, by simp⟩
      · rintro ⟨rest, rfl, rfl, -⟩
        simp
  | cons text texts ih =>
      simp only [List.map_cons, readInto, Item.token?]
      cases hread : Token.ofText? text with
      | none =>
          simp only [reduceCtorEq, false_iff]
          rintro ⟨rest, -, hmap, hspelled⟩
          obtain ⟨token, rest, rfl, htext, -⟩ := List.map_eq_cons_iff.mp hmap
          have hsome := Token.ofText?_eq_some_iff.mpr ⟨htext, hspelled token (by simp)⟩
          simp [hread] at hsome
      | some token =>
          obtain ⟨htext, htoken⟩ := Token.ofText?_eq_some_iff.mp hread
          simp only [ih]
          constructor
          · rintro ⟨rest, rfl, rfl, hspelled⟩
            exact ⟨token :: rest, by simp, by simp [htext],
              List.forall_mem_cons.mpr ⟨htoken, hspelled⟩⟩
          · rintro ⟨rest, rfl, hmap, hspelled⟩
            obtain ⟨first, others, rfl, hfirst, hothers⟩ := List.map_eq_cons_iff.mp hmap
            obtain ⟨hfirstSpelled, hothersSpelled⟩ := List.forall_mem_cons.mp hspelled
            have hsome := Token.ofText?_eq_some_iff.mpr ⟨hfirst, hfirstSpelled⟩
            obtain rfl : token = first := Option.some.inj (hread.symm.trans hsome)
            exact ⟨others, by simp, hothers, hothersSpelled⟩

/-- **Texts are read one by one**: each has to be the spelling of a token. -/
theorem readTexts_eq_ok_iff {texts : List String} {tokens : List Token} :
    readTexts texts = .ok tokens ↔
      tokens.map (·.text) = texts ∧ ∀ token ∈ tokens, token.Spelled := by
  simp [readTexts, readItems, readInto_eq_ok_iff]

end Calculator
