import Calculator.Expression.Basic
import Calculator.Proofs.Token.Lexing

/-!
# Outcomes without events

What an expression answers, with the reported events left out: the postfix form of a text is its
token list converted, and the value of a text is that of its postfix form. A blank text is answered
before any of this.

## Main definitions

* `listingOf`: the tokens of a text in postfix order.
* `valueOf`: the value of tokens in postfix order.

## Main results

* `tokenize_eq_ok_iff`: a text is tokenized if the limit is known and kept, and if each of its
  fragments is the spelling of a token.
* `listingOf_eq_ok_iff`: a text has a listing if its tokens are converted.
* `toPostfixText_outcome`, `evaluate_outcome`: the outcomes for a text.
* `computeItems_value`, `computeText_value`: the outcomes for what is in postfix order already.
-/

namespace Calculator

/-! ### Tokens -/

/-- A text within the limit is read fragment by fragment. -/
private theorem tokenizeWithin_eq_ok_iff {limit : Limit} {text : String} {tokens : List Token} :
    tokenizeWithin limit text = .ok tokens ↔
      limit.isExceededBy text.length = false ∧ tokens.map (·.text) = Fragment.split text ∧
        ∀ token ∈ tokens, token.Spelled := by
  cases hlength : limit.isExceededBy text.length with
  | true => simp [tokenizeWithin, splitWithin, checkLength, hlength]
  | false => simp [tokenizeWithin, splitWithin, checkLength, hlength, readTexts_eq_ok_iff]

/-- A text is tokenized if the limit is known and kept, and if each of its fragments is the spelling
of a token. -/
theorem tokenize_eq_ok_iff {settings : Settings} {text : String} {tokens : List Token} :
    tokenize settings text = .ok tokens ↔
      ∃ limit, settings.lengthLimit = .ok limit ∧ limit.isExceededBy text.length = false ∧
        tokens.map (·.text) = Fragment.split text ∧ ∀ token ∈ tokens, token.Spelled := by
  rw [tokenize, withLimit]
  cases hlimit : settings.lengthLimit with
  | error error => simp
  | ok limit =>
      simp only [Except.ok.injEq, exists_eq_left', ← tokenizeWithin_eq_ok_iff]
      cases tokenizeWithin limit text with
      | error error => simp [Except.mapError]
      | ok found => simp [Except.mapError]

/-- A blank text has no fragments. -/
theorem split_of_isBlankText {text : String} (h : Text.isBlankText text = true) :
    Fragment.split text = [] := by
  have hblanks : ∀ c ∈ text.toList, Text.isBlank c = true := by
    simpa [Text.isBlankText] using h
  have hspaced : Spaced (([] : List Token).map (·.text.toList)) text.toList := .nil hblanks
  simpa using Fragment.split_of_spaced (by simp) (rfl : Phase.operand.after [] = _) hspaced

/-- A text with tokens is not blank. -/
theorem isBlankText_of_tokenize {settings : Settings} {text : String} {tokens : List Token}
    (h : tokenize settings text = .ok tokens) (hne : tokens ≠ []) :
    Text.isBlankText text = false := by
  obtain ⟨limit, -, -, htexts, -⟩ := tokenize_eq_ok_iff.mp h
  by_contra hblank
  rw [split_of_isBlankText (by simpa using hblank), List.map_eq_nil_iff] at htexts
  exact hne htexts

/-! ### Postfix order -/

/-- The tokens of a text in postfix order. -/
def listingOf (settings : Settings) (text : String) : Except Fault (List Token) :=
  (tokenize settings text).bind fun tokens =>
    (toPostfix tokens).mapError fun defect => (ExpressionError.malformed defect).toFault

/-- A text has a listing if it is tokenized and the tokens are converted. -/
theorem listingOf_eq_ok_iff {settings : Settings} {text : String} {listing : List Token} :
    listingOf settings text = .ok listing ↔
      ∃ tokens, tokenize settings text = .ok tokens ∧ toPostfix tokens = .ok listing := by
  rw [listingOf]
  cases tokenize settings text with
  | error fault => simp [Except.bind]
  | ok tokens =>
      cases hlisting : toPostfix tokens <;> simp [Except.bind, Except.mapError, hlisting]

/-- The value of tokens in postfix order. -/
def valueOf (tokens : List Token) : Except Fault Float :=
  (evaluatePostfix Arithmetic.float tokens).mapError ExpressionError.toFault

/-- A conversion fails for a defect of the token list only. -/
theorem convert_value (tokens : List Token) :
    (convert tokens).value =
      (toPostfix tokens).mapError fun defect => (ExpressionError.malformed defect).toFault := by
  rw [convert]
  cases toPostfix tokens <;> rfl

/-- An evaluation is that of the stack machine. -/
theorem compute_value (tokens : List Token) : (compute tokens).value = valueOf tokens := by
  rw [compute, valueOf]
  cases evaluatePostfix Arithmetic.float tokens <;> rfl

/-- Items are read before anything is evaluated. -/
theorem computeItems_value (items : List Item) :
    (computeItems items).value =
      ((readItems items).mapError ExpressionError.toFault).bind valueOf := by
  rw [computeItems]
  cases readItems items with
  | error error => rfl
  | ok tokens => exact compute_value tokens

/-- A text in postfix order is read word by word. -/
theorem computeText_value (text : String) :
    (computeText text).value =
      ((readTexts (Text.words text)).mapError ExpressionError.toFault).bind valueOf :=
  computeItems_value _

/-! ### Texts -/

/-- A text of which nothing is known yet is tokenized and converted. -/
theorem postfixTokens_value (settings : Settings) (text : String) :
    ((Expression.mk text none none).postfixTokens settings).value.1 = listingOf settings text := by
  simp only [Expression.postfixTokens, Expression.tokens, listingOf]
  cases tokenize settings text with
  | error fault => rfl
  | ok tokens =>
      have hconvert := convert_value tokens
      simp only [Traced.value_bind, Except.bind]
      rw [← hconvert]
      cases (convert tokens).value <;> rfl

/-- The postfix form of a text. -/
theorem toPostfixText_outcome (settings : Settings) (text : String) :
    (toPostfixText settings text).outcome =
      if Text.isBlankText text then .ok "" else (listingOf settings text).map joinTexts := by
  have hlisting := postfixTokens_value settings text
  show (Expression.postfixText _ settings).value.1 = _
  rw [Expression.postfixText, Expression.isEmpty]
  cases hblank : Text.isBlankText text with
  | true => rfl
  | false =>
      simp only [Bool.false_eq_true, if_false, Traced.value_bind]
      rw [← hlisting]
      rcases ((Expression.mk text none none).postfixTokens settings).value with ⟨_ | _, _⟩ <;> rfl

/-- The value of a text. -/
theorem evaluate_outcome (settings : Settings) (text : String) :
    (evaluate settings text).outcome =
      if Text.isBlankText text then .error ExpressionError.empty.toFault
      else (listingOf settings text).bind valueOf := by
  have hlisting := postfixTokens_value settings text
  show (Expression.evaluate _ settings).value.1 = _
  rw [Expression.evaluate, Expression.isEmpty]
  cases hblank : Text.isBlankText text with
  | true => rfl
  | false =>
      simp only [Bool.false_eq_true, if_false, Traced.value_bind]
      rw [← hlisting]
      rcases ((Expression.mk text none none).postfixTokens settings).value with ⟨_ | listing, _⟩
      · rfl
      · exact compute_value listing

end Calculator
