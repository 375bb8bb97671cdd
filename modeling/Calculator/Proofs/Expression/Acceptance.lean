import Calculator.Proofs.Expression.Outcome
import Calculator.Proofs.Infix.Alternation

/-!
# Which texts have a value

A text has a value exactly if its tokens are converted to the listing of a tree. That is weaker than
being infix: neither the conversion nor the evaluation asks for operands and operators in turn, and
a conversion may bring tokens into an order that makes sense only afterwards. The lists that slip
through are those with two operands side by side, and every other token list outside the grammar
is refused.

## Main definitions

* `Token.IsGrammatical`: being a token of the grammar.
* `IsMalformed`: being refused for the arrangement of the tokens.

## Main results

* `evaluate_eq_ok_iff`: the texts with a value, and their values.
* `exists_tree_or_isMalformed`: tokens of the grammar are converted to the listing of a tree, or
  they are malformed.
* `evaluate_not_infix_iff`: **which texts have a value without being infix**.
-/

namespace Calculator

/-! ### Texts with a value -/

/-- The outcome for a text with tokens is that of the converted list. -/
theorem evaluate_outcome_of_tokenize {settings : Settings} {text : String} {tokens : List Token}
    (h : tokenize settings text = .ok tokens) (hne : tokens ≠ []) :
    (evaluate settings text).outcome =
      ((toPostfix tokens).mapError fun defect => (ExpressionError.malformed defect).toFault).bind
        valueOf := by
  rw [evaluate_outcome, isBlankText_of_tokenize h hne, listingOf, h]
  rfl

/-- The listing of a tree has the value of the tree, and nothing else has a value. -/
theorem valueOf_eq_ok_iff {listing : List Token} {v : Float} :
    valueOf listing = .ok v ↔
      ∃ tree : Tree, tree.listing = listing ∧ tree.value Token.toFloat Operator.apply = v := by
  rw [← evaluatePostfix_eq_ok_iff, ← Arithmetic.float_eq_of, valueOf]
  cases evaluatePostfix Arithmetic.float listing <;> simp [Except.mapError]

/-- **The texts with a value**: their tokens are converted to the listing of a tree, and the value
is that of the tree. -/
theorem evaluate_eq_ok_iff {settings : Settings} {text : String} {v : Float} :
    (evaluate settings text).outcome = .ok v ↔
      ∃ (tokens : List Token) (tree : Tree), tokenize settings text = .ok tokens ∧
        toPostfix tokens = .ok tree.listing ∧ tree.value Token.toFloat Operator.apply = v := by
  constructor
  · intro h
    rw [evaluate_outcome] at h
    split at h
    · simp at h
    cases hlisting : listingOf settings text with
    | error fault => simp [hlisting, Except.bind] at h
    | ok listing =>
        have hvalue : valueOf listing = .ok v := by
          simpa [hlisting, Except.bind] using h
        obtain ⟨tree, rfl, hv⟩ := valueOf_eq_ok_iff.mp hvalue
        obtain ⟨tokens, htokens, hpostfix⟩ := listingOf_eq_ok_iff.mp hlisting
        exact ⟨tokens, tree, htokens, hpostfix, hv⟩
  · rintro ⟨tokens, tree, htokens, hlisting, hv⟩
    have hne : tokens ≠ [] := by
      rintro rfl
      obtain hnil : [] = tree.listing := Except.ok.inj hlisting
      exact tree.listing_ne_nil hnil.symm
    rw [evaluate_outcome_of_tokenize htokens hne, hlisting]
    exact valueOf_eq_ok_iff.mpr ⟨tree, rfl, hv⟩

/-! ### Refused lists -/

/-- A token of the grammar: a parenthesis, a number, or an operator with a known text. -/
def Token.IsGrammatical (token : Token) : Prop := token.isParen = true ∨ token.IsCalculable

/-- Texts are read as tokens of the grammar. -/
theorem Token.Spelled.isGrammatical {token : Token} (h : token.Spelled) : token.IsGrammatical := by
  cases h with
  | number _ => exact Or.inr (Or.inl rfl)
  | operator o => exact Or.inr (Or.inr ⟨⟨_, o, rfl, rfl⟩, rfl⟩)
  | leftParen => exact Or.inl rfl
  | rightParen => exact Or.inl rfl

/-- Tokens of the grammar are converted to numbers and operators only. -/
theorem isCalculable_of_toPostfix {tokens listing : List Token}
    (hgrammatical : ∀ token ∈ tokens, token.IsGrammatical) (h : toPostfix tokens = .ok listing) :
    ∀ token ∈ listing, token.IsCalculable := by
  intro token ht
  rw [(toPostfix_perm h).mem_iff, List.mem_filter] at ht
  obtain ⟨hmem, hparen⟩ := ht
  rcases hgrammatical token hmem with hisParen | hcalculable
  · simp [hisParen] at hparen
  · exact hcalculable

/-- The tokens are refused for their arrangement, by the conversion or by the evaluation. -/
def IsMalformed (tokens : List Token) (defect : Defect) : Prop :=
  toPostfix tokens = .error defect ∨ ∃ listing, toPostfix tokens = .ok listing ∧
    evaluatePostfix Arithmetic.float listing = .error (.malformed defect)

/-- Tokens of the grammar are converted to the listing of a tree, or they are malformed. -/
theorem exists_tree_or_isMalformed {tokens : List Token}
    (hgrammatical : ∀ token ∈ tokens, token.IsGrammatical) (hne : tokens ≠ []) :
    (∃ tree : Tree, toPostfix tokens = .ok tree.listing) ∨ ∃ defect, IsMalformed tokens defect := by
  cases hlisting : toPostfix tokens with
  | error defect => exact Or.inr ⟨defect, Or.inl hlisting⟩
  | ok listing =>
      have hcalculable := isCalculable_of_toPostfix hgrammatical hlisting
      have hvalue : (∃ v, evaluatePostfix Arithmetic.float listing = .ok v) ∨
          ∃ defect, evaluatePostfix Arithmetic.float listing = .error (.malformed defect) :=
        evaluatePostfix_of_isCalculable hcalculable (toPostfix_ne_nil hlisting hne)
      rcases hvalue with ⟨v, hv⟩ | ⟨defect, hdefect⟩
      · rw [Arithmetic.float_eq_of] at hv
        obtain ⟨tree, rfl, -⟩ := evaluatePostfix_eq_ok_iff.mp hv
        exact Or.inl ⟨tree, rfl⟩
      · exact Or.inr ⟨defect, Or.inr ⟨listing, hlisting, hdefect⟩⟩

/-- A text whose tokens are malformed is refused for their defect. -/
theorem evaluate_of_isMalformed {settings : Settings} {text : String} {tokens : List Token}
    {defect : Defect} (htokens : tokenize settings text = .ok tokens)
    (h : IsMalformed tokens defect) :
    (evaluate settings text).outcome = .error (ExpressionError.malformed defect).toFault := by
  have hne : tokens ≠ [] := by
    rintro rfl
    rcases h with herror | ⟨listing, hlisting, hdefect⟩
    · simp [toPostfix, Conversion.run, Conversion.finish] at herror
    · obtain hnil : [] = listing := Except.ok.inj hlisting
      simp [← hnil, evaluatePostfix] at hdefect
  rw [evaluate_outcome_of_tokenize htokens hne]
  rcases h with herror | ⟨listing, hlisting, hdefect⟩
  · rw [herror]
    rfl
  · simp only [hlisting, Except.mapError, Except.bind, valueOf, hdefect]

/-! ### Outside the grammar -/

/-- A list of tokens of the grammar that is not infix is malformed, or it has juxtaposed operands
and is converted to the listing of a tree. -/
theorem juxtaposed_or_isMalformed {tokens : List Token}
    (hgrammatical : ∀ token ∈ tokens, token.IsGrammatical) (hne : tokens ≠ [])
    (houtside : ¬ Infix tokens) :
    (Juxtaposed tokens ∧ ∃ tree : Tree, toPostfix tokens = .ok tree.listing) ∨
      ∃ defect, IsMalformed tokens defect := by
  rcases exists_tree_or_isMalformed hgrammatical hne with ⟨tree, hlisting⟩ | hmalformed
  · exact Or.inl ⟨(infix_iff_not_juxtaposed hlisting).not_left.mp houtside, tree, hlisting⟩
  · exact Or.inr hmalformed

/-- **Which texts have a value without being infix.** They are the texts with two operands side by
side whose tokens are nevertheless converted to the listing of a tree. All other texts whose tokens,
at least one, are not infix are refused as malformed, and so are all other such lists of tokens of
the grammar, whether they come from a text or not. -/
theorem evaluate_not_infix_iff (settings : Settings) (text : String) :
    (∀ v, ((evaluate settings text).outcome = .ok v ∧
        ∃ tokens, tokenize settings text = .ok tokens ∧ ¬ Infix tokens) ↔
      ∃ (tokens : List Token) (tree : Tree), tokenize settings text = .ok tokens ∧
        Juxtaposed tokens ∧ toPostfix tokens = .ok tree.listing ∧
        tree.value Token.toFloat Operator.apply = v) ∧
    (∀ tokens, tokenize settings text = .ok tokens → tokens ≠ [] → ¬ Infix tokens →
      (Juxtaposed tokens ∧ ∃ tree : Tree, toPostfix tokens = .ok tree.listing) ∨
        ∃ defect, (evaluate settings text).outcome =
          .error (ExpressionError.malformed defect).toFault) ∧
    ∀ tokens : List Token, (∀ token ∈ tokens, token.IsGrammatical) → tokens ≠ [] →
      ¬ Infix tokens →
      (Juxtaposed tokens ∧ ∃ tree : Tree, toPostfix tokens = .ok tree.listing) ∨
        ∃ defect, IsMalformed tokens defect := by
  refine ⟨fun v => ⟨?_, ?_⟩, ?_, fun tokens => juxtaposed_or_isMalformed⟩
  · rintro ⟨hvalue, tokens, htokens, houtside⟩
    obtain ⟨others, tree, hothers, hlisting, hv⟩ := evaluate_eq_ok_iff.mp hvalue
    obtain rfl : tokens = others := Except.ok.inj (htokens.symm.trans hothers)
    have hjuxtaposed := (infix_iff_not_juxtaposed hlisting).not_left.mp houtside
    exact ⟨tokens, tree, htokens, hjuxtaposed, hlisting, hv⟩
  · rintro ⟨tokens, tree, htokens, hjuxtaposed, hlisting, hv⟩
    have houtside := (infix_iff_not_juxtaposed hlisting).not_left.mpr hjuxtaposed
    exact ⟨evaluate_eq_ok_iff.mpr ⟨tokens, tree, htokens, hlisting, hv⟩, tokens, htokens, houtside⟩
  · intro tokens htokens hne houtside
    obtain ⟨-, -, -, -, hspelled⟩ := tokenize_eq_ok_iff.mp htokens
    rcases juxtaposed_or_isMalformed (fun t ht => (hspelled t ht).isGrammatical) hne houtside with
      hjuxtaposed | ⟨defect, hmalformed⟩
    · exact Or.inl hjuxtaposed
    · exact Or.inr ⟨defect, evaluate_of_isMalformed htokens hmalformed⟩

/-- The text `2 3 +` is not infix, and it has the value of `2+3`. -/
theorem evaluate_two_three_plus :
    ∃ tokens, tokenize {} "2 3 +" = .ok tokens ∧ ¬ Infix tokens ∧
      (evaluate {} "2 3 +").outcome =
        .ok (Operator.plus.apply (Numeral.value ['2']) (Numeral.value ['3'])) := by
  let two : Token := { kind := .number, text := "2", value := some (Numeral.value "2".toList) }
  let three : Token := { kind := .number, text := "3", value := some (Numeral.value "3".toList) }
  let plus : Token := { kind := .operator, text := Operator.plus.symbol }
  have htwo : two.Spelled := .number ((Numeral.isLiteral_iff _).mp (by decide))
  have hthree : three.Spelled := .number ((Numeral.isLiteral_iff _).mp (by decide))
  have htokens : tokenize {} "2 3 +" = .ok [two, three, plus] := by
    refine tokenize_eq_ok_iff.mpr ⟨.whole 10000, rfl, by decide, by decide, ?_⟩
    simp only [List.forall_mem_cons, List.not_mem_nil, false_imp_iff, implies_true, and_true]
    exact ⟨htwo, hthree, .operator .plus⟩
  refine ⟨_, htokens, ?_, ?_⟩
  · intro h
    have hafter := h.after_eq
    simp [Phase.after, Phase.next, two, three] at hafter
  · let tree : Tree :=
      .operation ⟨plus, .plus, rfl, rfl⟩ (.operand ⟨two, rfl⟩) (.operand ⟨three, rfl⟩)
    exact evaluate_eq_ok_iff.mpr ⟨_, tree, htokens, rfl, rfl⟩

end Calculator
