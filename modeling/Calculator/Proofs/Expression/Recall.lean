import Calculator.Proofs.Expression.Outcome

/-!
# What an expression recalls

An expression answers from the tokens that it knows, and from those of its text as long as it knows
none. The postfix form that it knows is always that of the tokens that it knows, so that it makes no
difference whether it is recalled or converted again. A request stores what was found on the way to
its answer and nothing of what failed.

## Main definitions

* `Request`, `Reply`, `respond`: what may be asked of an expression, and what it replies.
* `tokensAtHand`, `listingFrom`: what the replies are made of.
* `Request.answer`, `afterwards`: the reply to a request and the expression after it, without the
  way to them.
* `Coherent`: the known postfix form is that of the known tokens.

## Main results

* `respond_eq`: **how an expression responds**.
* `Coherent.afterwards`, `keeps_afterwards`: coherence stays, and so does what is known.
* `tokens_of_afterwards`, `afterwards_of_fault`: what is stored, and what is stored by a request
  that fails.
-/

namespace Calculator.Expression

/-! ### Requests -/

/-- What may be asked of an expression. -/
inductive Request where
  /-- The tokens. -/
  | tokens
  /-- The tokens in postfix order. -/
  | postfixTokens
  /-- The postfix form as a text. -/
  | postfixText
  /-- The value. -/
  | value
  /-- Whether the text is blank. -/
  | isEmpty
  /-- To hold another text. -/
  | replaceSource (source : String)

/-- What an expression replies. -/
inductive Reply where
  /-- A list of tokens, or why there is none. -/
  | listed (result : Except Fault (List Token))
  /-- A text, or why there is none. -/
  | written (result : Except Fault String)
  /-- A value, or why there is none. -/
  | valued (result : Except Fault Float)
  /-- Whether something is so. -/
  | decided (answer : Bool)
  /-- Something was done. -/
  | done

/-- Why there is no answer, if there is none. -/
def Reply.fault? : Reply → Option Fault
  | .listed (.error fault) => some fault
  | .written (.error fault) => some fault
  | .valued (.error fault) => some fault
  | _ => none

/-- The reply to a request, and the expression afterwards. -/
def respond (expression : Expression) (settings : Settings) : Request → Reply × Expression
  | .tokens =>
    let (result, after) := expression.tokens settings
    (.listed result, after)
  | .postfixTokens =>
    let (result, after) := (expression.postfixTokens settings).value
    (.listed result, after)
  | .postfixText =>
    let (result, after) := (expression.postfixText settings).value
    (.written result, after)
  | .value =>
    let (result, after) := (expression.evaluate settings).value
    (.valued result, after)
  | .isEmpty => (.decided expression.isEmpty, expression)
  | .replaceSource source => (.done, expression.replaceSource source)

/-! ### Answers -/

/-- The tokens that an expression answers from: the known ones, else those of its text. -/
def tokensAtHand (expression : Expression) (settings : Settings) : Except Fault (List Token) :=
  match expression.tokenCache with
  | some known => .ok known
  | none => tokenize settings expression.source

/-- Tokens in postfix order, if there are tokens. -/
def listingFrom (tokens : Except Fault (List Token)) : Except Fault (List Token) :=
  tokens.bind fun found =>
    (toPostfix found).mapError fun defect => (ExpressionError.malformed defect).toFault

/-- The reply to a request by the tokens that it is answered from. The text decides no more than
whether it is blank. -/
def Request.answer (tokens : Except Fault (List Token)) (source : String) : Request → Reply
  | .tokens => .listed tokens
  | .postfixTokens => .listed (listingFrom tokens)
  | .postfixText =>
    .written (if Text.isBlankText source then .ok "" else (listingFrom tokens).map joinTexts)
  | .value =>
    .valued (if Text.isBlankText source then .error ExpressionError.empty.toFault
      else (listingFrom tokens).bind valueOf)
  | .isEmpty => .decided (Text.isBlankText source)
  | .replaceSource _ => .done

/-- The expression after its tokens were looked up. -/
def withTokens (expression : Expression) (settings : Settings) : Expression :=
  { expression with tokenCache := (expression.tokensAtHand settings).toOption }

/-- The expression after its postfix form was looked up, too. -/
def withListing (expression : Expression) (settings : Settings) : Expression :=
  { expression with
    tokenCache := (expression.tokensAtHand settings).toOption
    postfixCache := (listingFrom (expression.tokensAtHand settings)).toOption }

/-- The expression after a request. -/
def afterwards (expression : Expression) (settings : Settings) : Request → Expression
  | .tokens => expression.withTokens settings
  | .postfixTokens => expression.withListing settings
  | .postfixText => if expression.isEmpty then expression else expression.withListing settings
  | .value => if expression.isEmpty then expression else expression.withListing settings
  | .isEmpty => expression
  | .replaceSource source => expression.replaceSource source

/-! ### Coherence -/

/-- The known postfix form is that of the known tokens. -/
def Coherent (expression : Expression) : Prop :=
  ∀ listing, expression.postfixCache = some listing →
    ∃ tokens, expression.tokenCache = some tokens ∧ toPostfix tokens = .ok listing

variable {expression : Expression}

/-- Known tokens are at hand. -/
theorem tokensAtHand_of_some {tokens : List Token} (h : expression.tokenCache = some tokens)
    (settings : Settings) : expression.tokensAtHand settings = .ok tokens := by
  rw [tokensAtHand, h]

/-- As long as no tokens are known, those of the text are at hand. -/
theorem tokensAtHand_of_none (h : expression.tokenCache = none) (settings : Settings) :
    expression.tokensAtHand settings = tokenize settings expression.source := by
  rw [tokensAtHand, h]

/-- There is a listing if the tokens are converted. -/
theorem listingFrom_eq_ok_iff {tokens : Except Fault (List Token)} {listing : List Token} :
    listingFrom tokens = .ok listing ↔
      ∃ found, tokens = .ok found ∧ toPostfix found = .ok listing := by
  rw [listingFrom]
  cases tokens with
  | error fault => simp [Except.bind]
  | ok found => cases hlisting : toPostfix found <;> simp [Except.bind, Except.mapError, hlisting]

/-- An optional value is the result that it comes from. -/
private theorem eq_ok_of_toOption {ε α : Type} {result : Except ε α} {value : α}
    (h : result.toOption = some value) : result = .ok value := by
  cases result with
  | error reason => simp [Except.toOption] at h
  | ok found => exact congrArg Except.ok (Option.some.inj h)

/-- A known postfix form does not change when the tokens are looked up. -/
theorem coherent_withTokens (h : expression.Coherent) (settings : Settings) :
    (expression.withTokens settings).Coherent := by
  intro listing hlisting
  obtain ⟨tokens, htokens, hconverted⟩ := h listing hlisting
  refine ⟨tokens, ?_, hconverted⟩
  rw [withTokens, tokensAtHand_of_some htokens]
  rfl

/-- A postfix form that was looked up is that of the tokens. -/
theorem coherent_withListing (expression : Expression) (settings : Settings) :
    (expression.withListing settings).Coherent := by
  intro listing hlisting
  obtain ⟨tokens, htokens, hconverted⟩ := listingFrom_eq_ok_iff.mp (eq_ok_of_toOption hlisting)
  refine ⟨tokens, ?_, hconverted⟩
  rw [withListing, htokens]
  rfl

namespace Coherent

/-- A known postfix form is that of the tokens at hand. -/
theorem listingFrom_tokensAtHand (h : expression.Coherent) {listing : List Token}
    (hlisting : expression.postfixCache = some listing) (settings : Settings) :
    listingFrom (expression.tokensAtHand settings) = .ok listing := by
  obtain ⟨tokens, htokens, hconverted⟩ := h listing hlisting
  exact listingFrom_eq_ok_iff.mpr ⟨tokens, tokensAtHand_of_some htokens settings, hconverted⟩

/-- An expression stays coherent whatever is asked of it. -/
theorem afterwards (h : expression.Coherent) (settings : Settings) (request : Request) :
    (expression.afterwards settings request).Coherent := by
  cases request with
  | tokens => exact coherent_withTokens h settings
  | postfixTokens => exact coherent_withListing expression settings
  | postfixText | value =>
      rw [Expression.afterwards]
      split
      · exact h
      · exact coherent_withListing expression settings
  | isEmpty => exact h
  | replaceSource source => exact h

end Coherent

/-! ### Responses -/

/-- The tokens are looked up. -/
theorem tokens_eq (expression : Expression) (settings : Settings) :
    expression.tokens settings =
      (expression.tokensAtHand settings, expression.withTokens settings) := by
  obtain ⟨source, tokenCache, postfixCache⟩ := expression
  cases tokenCache with
  | some known => rfl
  | none =>
      simp only [tokens, withTokens, tokensAtHand]
      cases tokenize settings source <;> rfl

/-- The postfix form is looked up. -/
theorem postfixTokens_eq (h : expression.Coherent) (settings : Settings) :
    (expression.postfixTokens settings).value =
      (listingFrom (expression.tokensAtHand settings), expression.withListing settings) := by
  obtain ⟨source, tokenCache, postfixCache⟩ := expression
  cases postfixCache with
  | some listing =>
      obtain ⟨tokens, htokens, -⟩ := h listing rfl
      obtain rfl : tokenCache = some tokens := htokens
      have hlisting := h.listingFrom_tokensAtHand rfl settings
      rw [withListing, hlisting]
      rfl
  | none =>
      simp only [postfixTokens, tokens_eq, withTokens, withListing]
      cases tokensAtHand ⟨source, tokenCache, none⟩ settings with
      | error fault => rfl
      | ok found =>
          have hconvert : listingFrom (.ok found) = (convert found).value :=
            (convert_value found).symm
          rw [hconvert]
          simp only [Traced.value_bind]
          cases (convert found).value <;> rfl

/-- The postfix form is looked up and joined, unless the text is blank. -/
private theorem postfixText_eq (h : expression.Coherent) (settings : Settings) :
    (expression.postfixText settings).value =
      if expression.isEmpty then (.ok "", expression)
      else ((listingFrom (expression.tokensAtHand settings)).map joinTexts,
        expression.withListing settings) := by
  rw [postfixText]
  split
  · rfl
  · simp only [Traced.value_bind, postfixTokens_eq h]
    cases listingFrom (expression.tokensAtHand settings) <;> rfl

/-- The postfix form is looked up and evaluated, unless the text is blank. -/
private theorem evaluate_eq (h : expression.Coherent) (settings : Settings) :
    (expression.evaluate settings).value =
      if expression.isEmpty then (.error ExpressionError.empty.toFault, expression)
      else ((listingFrom (expression.tokensAtHand settings)).bind valueOf,
        expression.withListing settings) := by
  rw [evaluate]
  split
  · rfl
  · simp only [Traced.value_bind, postfixTokens_eq h]
    cases listingFrom (expression.tokensAtHand settings) with
    | error fault => rfl
    | ok listing =>
        simp only [Traced.value_bind, compute_value]
        rfl

/-- **How an expression responds.** A coherent expression replies from the tokens at hand, and
stores what it looked up on the way. -/
theorem respond_eq (h : expression.Coherent) (settings : Settings) (request : Request) :
    expression.respond settings request =
      (request.answer (expression.tokensAtHand settings) expression.source,
        expression.afterwards settings request) := by
  cases request with
  | tokens => rw [respond, tokens_eq]; rfl
  | postfixTokens => rw [respond, postfixTokens_eq h]; rfl
  | postfixText =>
      rw [respond, postfixText_eq h, Request.answer, afterwards]
      cases hblank : Text.isBlankText expression.source <;> simp [isEmpty, hblank]
  | value =>
      rw [respond, evaluate_eq h, Request.answer, afterwards]
      cases hblank : Text.isBlankText expression.source <;> simp [isEmpty, hblank]
  | isEmpty => rfl
  | replaceSource source => rfl

/-! ### What is stored -/

/-- What one expression knows, another one knows, too. -/
structure Keeps (before after : Expression) : Prop where
  /-- The known tokens. -/
  tokens : ∀ tokens, before.tokenCache = some tokens → after.tokenCache = some tokens
  /-- The known postfix form. -/
  listing : ∀ listing, before.postfixCache = some listing → after.postfixCache = some listing

/-- What is known stays when the postfix form is looked up. -/
private theorem keeps_withListing (h : expression.Coherent) (settings : Settings) :
    expression.Keeps (expression.withListing settings) where
  tokens := by
    intro tokens htokens
    rw [withListing, tokensAtHand_of_some htokens]
    rfl
  listing := by
    intro listing hlisting
    rw [withListing, h.listingFrom_tokensAtHand hlisting]
    rfl

/-- What is known stays whatever is asked. -/
theorem keeps_afterwards (h : expression.Coherent) (settings : Settings) (request : Request) :
    expression.Keeps (expression.afterwards settings request) := by
  have hsame : expression.Keeps expression := ⟨fun _ h => h, fun _ h => h⟩
  cases request with
  | tokens => exact ⟨(keeps_withListing h settings).tokens, hsame.listing⟩
  | postfixTokens => exact keeps_withListing h settings
  | postfixText | value =>
      rw [afterwards]
      split
      · exact hsame
      · exact keeps_withListing h settings
  | isEmpty => exact hsame
  | replaceSource source => exact ⟨hsame.tokens, hsame.listing⟩

/-- Tokens that are known after a request were known before, or they are those of the text. -/
theorem tokens_of_afterwards {settings : Settings} {request : Request} {tokens : List Token}
    (hnone : expression.tokenCache = none)
    (h : (expression.afterwards settings request).tokenCache = some tokens) :
    tokenize settings expression.source = .ok tokens := by
  have hlooked (hfound : (expression.tokensAtHand settings).toOption = some tokens) :
      tokenize settings expression.source = .ok tokens := by
    rw [tokensAtHand_of_none hnone] at hfound
    exact eq_ok_of_toOption hfound
  have hkept (hsome : expression.tokenCache = some tokens) :
      tokenize settings expression.source = .ok tokens := by
    rw [hnone] at hsome
    exact absurd hsome (by simp)
  cases request with
  | tokens | postfixTokens => exact hlooked h
  | postfixText | value =>
      rw [afterwards] at h
      split at h
      · exact hkept h
      · exact hlooked h
  | isEmpty | replaceSource source => exact hkept h

/-- Tokens that are not at hand are not stored. -/
private theorem withTokens_of_error {settings : Settings} {fault : Fault}
    (htokens : expression.tokensAtHand settings = .error fault) :
    expression.withTokens settings = expression := by
  obtain ⟨source, tokenCache, postfixCache⟩ := expression
  cases tokenCache with
  | some known => simp [tokensAtHand] at htokens
  | none =>
      rw [withTokens, htokens]
      rfl

/-- As long as no tokens are at hand, no postfix form is stored either. -/
private theorem withListing_of_error (h : expression.Coherent) {settings : Settings} {fault : Fault}
    (htokens : expression.tokensAtHand settings = .error fault) :
    expression.withListing settings = expression := by
  obtain ⟨source, tokenCache, postfixCache⟩ := expression
  cases tokenCache with
  | some known => simp [tokensAtHand] at htokens
  | none =>
      cases postfixCache with
      | some listing =>
          obtain ⟨tokens, hknown, -⟩ := h listing rfl
          simp at hknown
      | none =>
          rw [withListing, htokens]
          rfl

/-- **What is stored when a request fails**: nothing, or all of the tokens, with all of their
postfix form if they have one. -/
theorem afterwards_of_fault (h : expression.Coherent) {settings : Settings} {request : Request}
    {fault : Fault} (hfault : (expression.respond settings request).1.fault? = some fault) :
    (expression.respond settings request).2 = expression ∨
      ∃ tokens, expression.tokensAtHand settings = .ok tokens ∧
        (expression.respond settings request).2 =
          { expression with
            tokenCache := some tokens, postfixCache := (toPostfix tokens).toOption } := by
  rw [respond_eq h] at hfault ⊢
  have hlisted : expression.withListing settings = expression ∨
      ∃ tokens, expression.tokensAtHand settings = .ok tokens ∧ expression.withListing settings =
        { expression with
          tokenCache := some tokens, postfixCache := (toPostfix tokens).toOption } := by
    cases htokens : expression.tokensAtHand settings with
    | error fault => exact .inl (withListing_of_error h htokens)
    | ok tokens =>
        refine .inr ⟨tokens, rfl, ?_⟩
        rw [withListing, htokens, listingFrom]
        cases hlisting : toPostfix tokens <;> simp [Except.toOption, Except.bind, Except.mapError,
          hlisting]
  cases request with
  | tokens =>
      -- tokens that are at hand are an answer, so there are none
      cases htokens : expression.tokensAtHand settings with
      | ok tokens => simp [Request.answer, htokens, Reply.fault?] at hfault
      | error reason => exact .inl (withTokens_of_error htokens)
  | postfixTokens => exact hlisted
  | postfixText | value =>
      rw [afterwards]
      split
      · exact .inl rfl
      · exact hlisted
  | isEmpty => exact .inl rfl
  | replaceSource source => simp [Request.answer, Reply.fault?] at hfault

end Calculator.Expression
