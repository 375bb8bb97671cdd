import Calculator.Proofs.Expression.Outcome
import Calculator.Proofs.Postfix.Yard
import Calculator.Proofs.Text.Words

/-!
# The postfix text as an exchange format

The postfix form of a text is written with single spaces and read again word by word, by another
reader than the one that read the text: it joins no signs with literals. Nothing is lost on the way,
since every token that a text has is spelled as a word, and as one that is read as this token.

## Main definitions

* `valueByTokens`: the value of the tokens that an expression gives out in postfix order.

## Main results

* `readTexts_words_joinTexts`, `readTexts_pieces_joinTexts`: joined tokens are read again as the
  same tokens.
* `exchange_outcome`: **the postfix text has the outcome of the text**.
-/

namespace Calculator

/-! ### Tokens as words -/

/-- Literals are words. -/
theorem Numeral.Literal.isWord {chars : List Char} (h : Numeral.Literal chars) :
    Text.IsWord chars := by
  cases h with
  | unsigned h => exact ⟨h.ne_nil, fun c hc => (Fragment.isPlain_of_unsigned h c hc).1⟩
  | signed h =>
      refine ⟨by simp, List.forall_mem_cons.mpr ⟨by decide, ?_⟩⟩
      exact fun c hc => (Fragment.isPlain_of_unsigned h c hc).1

/-- Tokens are spelled as words. -/
theorem Token.Spelled.isWord {token : Token} (h : token.Spelled) :
    Text.IsWord token.text.toList := by
  by_cases hkind : token.kind = .number
  · exact (Fragment.literal_of_number h hkind).isWord
  · obtain ⟨c, hchars, hsymbol, -⟩ := Fragment.exists_symbol h hkind
    rw [hchars]
    exact ⟨by simp, List.forall_mem_singleton.mpr (Fragment.isBlank_of_isSymbol hsymbol)⟩

section

variable {tokens : List Token} (h : ∀ token ∈ tokens, token.Spelled)

include h

/-- The texts of tokens are words. -/
private theorem isWord_of_mem_map : ∀ text ∈ tokens.map (·.text), Text.IsWord text.toList := by
  intro text ht
  obtain ⟨token, hmem, rfl⟩ := List.mem_map.mp ht
  exact (h token hmem).isWord

/-- Joined tokens are read again, word by word. -/
theorem readTexts_words_joinTexts : readTexts (Text.words (joinTexts tokens)) = .ok tokens := by
  rw [joinTexts, Text.words_intercalate (isWord_of_mem_map h)]
  exact readTexts_eq_ok_iff.mpr ⟨rfl, h⟩

/-- Joined tokens are read again, piece by piece. -/
theorem readTexts_pieces_joinTexts : readTexts (Text.pieces (joinTexts tokens)) = .ok tokens := by
  rw [joinTexts, Text.pieces_intercalate (isWord_of_mem_map h)]
  exact readTexts_eq_ok_iff.mpr ⟨rfl, h⟩

end

/-- Tokens are read as they are. -/
private theorem readInto_tokens (read tokens : List Token) :
    readInto read (tokens.map .token) = .ok (read.reverse ++ tokens) := by
  induction tokens generalizing read with
  | nil => simp [readInto]
  | cons token tokens ih => simp [readInto, Item.token?, ih]

/-- Tokens are read as they are. -/
theorem readItems_tokens (tokens : List Token) : readItems (tokens.map .token) = .ok tokens :=
  readInto_tokens [] tokens

/-! ### Outcomes -/

/-- Tokens that are read already have their value as they are. -/
theorem computeItems_tokens_value (tokens : List Token) :
    (computeItems (tokens.map .token)).value = valueOf tokens := by
  rw [computeItems_value, readItems_tokens]
  rfl

/-- The value of the tokens that an expression gives out in postfix order. -/
def valueByTokens (settings : Settings) (text : String) : Except Fault Float :=
  ((Expression.mk text none none).postfixTokens settings).value.1.bind fun listing =>
    (computeItems (listing.map .token)).value

/-- The tokens of a text have its value, if the text is not asked for being blank. -/
theorem valueByTokens_eq (settings : Settings) (text : String) :
    valueByTokens settings text = (listingOf settings text).bind valueOf := by
  simp only [valueByTokens, postfixTokens_value, computeItems_tokens_value]

/-- What a text is converted to is spelled as texts are read. -/
theorem spelled_of_listingOf {settings : Settings} {text : String} {listing : List Token}
    (h : listingOf settings text = .ok listing) : ∀ token ∈ listing, token.Spelled := by
  obtain ⟨tokens, htokens, hlisting⟩ := listingOf_eq_ok_iff.mp h
  obtain ⟨-, -, -, -, hspelled⟩ := tokenize_eq_ok_iff.mp htokens
  intro token ht
  rw [(toPostfix_perm hlisting).mem_iff] at ht
  exact hspelled token (List.mem_of_mem_filter ht)

/-- A blank text that is tokenized has an empty listing. -/
theorem listingOf_of_isBlankText {settings : Settings} {text : String}
    (h : Text.isBlankText text = true) :
    listingOf settings text = (tokenize settings text).map fun _ => [] := by
  rw [listingOf]
  cases htokens : tokenize settings text with
  | error fault => rfl
  | ok tokens =>
      obtain ⟨-, -, -, htexts, -⟩ := tokenize_eq_ok_iff.mp htokens
      rw [split_of_isBlankText h, List.map_eq_nil_iff] at htexts
      rw [htexts]
      rfl

/-- **The postfix text is a faithful exchange format.** If a text has a postfix text, then reading
that word by word or piece by piece has the outcome of the text itself, and so have the tokens in
postfix order unless the text is blank. A blank text has an empty postfix text and nothing to
evaluate; its tokens fail as the tokenizer does, and are nothing to evaluate if it does not. -/
theorem exchange_outcome {settings : Settings} {text written : String}
    (h : (toPostfixText settings text).outcome = .ok written) :
    (computeText written).value = (evaluate settings text).outcome ∧
      (computeItems ((Text.pieces written).map .text)).value = (evaluate settings text).outcome ∧
      (Text.isBlankText text = false →
        valueByTokens settings text = (evaluate settings text).outcome) ∧
      (Text.isBlankText text = true → written = "" ∧
        (evaluate settings text).outcome = .error ExpressionError.empty.toFault ∧
        valueByTokens settings text =
          (tokenize settings text).bind fun _ => .error ExpressionError.empty.toFault) := by
  rw [toPostfixText_outcome] at h
  rw [evaluate_outcome, computeText_value, computeItems_value, valueByTokens_eq]
  cases hblank : Text.isBlankText text with
  | true =>
      obtain rfl : "" = written := by simpa [hblank] using h
      refine ⟨rfl, rfl, by simp, fun _ => ⟨rfl, rfl, ?_⟩⟩
      rw [listingOf_of_isBlankText hblank]
      cases tokenize settings text <;> rfl
  | false =>
      cases hlisting : listingOf settings text with
      | error fault => simp [hblank, hlisting, Except.map] at h
      | ok listing =>
          obtain rfl : joinTexts listing = written := by
            simpa [hblank, hlisting, Except.map] using h
          have hspelled := spelled_of_listingOf hlisting
          have hwords := readTexts_words_joinTexts hspelled
          have hpieces : readItems ((Text.pieces (joinTexts listing)).map .text) = .ok listing :=
            readTexts_pieces_joinTexts hspelled
          rw [hwords, hpieces]
          exact ⟨rfl, rfl, fun _ => rfl, by simp⟩

/-- The text `2*-3+` has a postfix text, which lacks an operand at the place where the text does. -/
theorem exchange_outcome_missing_operand :
    (toPostfixText {} "2*-3+").outcome = .ok "2 -3 * +" ∧
      (computeText "2 -3 * +").value = (evaluate {} "2*-3+").outcome ∧
      (computeItems (["2", "-3", "*", "+"].map .text)).value = (evaluate {} "2*-3+").outcome ∧
      valueByTokens {} "2*-3+" = (evaluate {} "2*-3+").outcome ∧
      (evaluate {} "2*-3+").outcome =
        .error (ExpressionError.malformed (.missingOperand "+" 3)).toFault := by
  have hwritten : (toPostfixText {} "2*-3+").outcome = .ok "2 -3 * +" := rfl
  have hcut : Text.pieces "2 -3 * +" = ["2", "-3", "*", "+"] := by decide
  obtain ⟨hwords, hpieces, htokens, -⟩ := exchange_outcome hwritten
  rw [hcut] at hpieces
  exact ⟨hwritten, hwords, hpieces, htokens (by decide), rfl⟩

/-- Four spaces are longer than a limit of three: their postfix text is empty and they are nothing
to evaluate, but they have no tokens. -/
theorem valueByTokens_blank_too_long :
    let settings : Settings := { overrides := some [("max_expression_length", .int 3)] }
    (toPostfixText settings "    ").outcome = .ok "" ∧
      (evaluate settings "    ").outcome = .error ExpressionError.empty.toFault ∧
      valueByTokens settings "    " = .error (ExpressionError.tooLong 4 (.whole 3)).toFault ∧
      valueByTokens settings "    " ≠ (evaluate settings "    ").outcome := by
  intro settings
  have hempty : (evaluate settings "    ").outcome = .error ExpressionError.empty.toFault := rfl
  have hlong : valueByTokens settings "    " =
      .error (ExpressionError.tooLong 4 (.whole 3)).toFault := rfl
  refine ⟨rfl, hempty, hlong, ?_⟩
  rw [hempty, hlong]
  intro h
  have hkind := congrArg Fault.kind (Except.error.inj h)
  exact absurd hkind (by decide)

end Calculator
