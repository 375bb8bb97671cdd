import Calculator.Proofs.Expression.Outcome

/-!
# Why a text is refused

A text has no postfix form or no value for one of three reasons: the settings give no length limit,
the text is longer than that limit, or its tokens are wrong. Nothing else can go wrong, and the
limit that a refusal names is the one in force. A refusal also names places among the tokens and
counts of values. There are no more tokens than characters, so none of these numbers is greater than
the length of the text.

## Main definitions

* `Defect.number`: the place or the count that a defect names.
* `ExpressionError.IsOfTokens`: the errors that do not tell of the length, with numbers within a
  bound.
* `Refusal`: the failures for a text under given settings.

## Main results

* `length_split_le`: there are no more fragments than characters.
* `isOfTokens_of_toPostfix`, `isOfTokens_of_evaluatePostfix`: what conversion and evaluation name.
* `refusal_of_toPostfixText`, `refusal_of_evaluate`: every failure is a refusal.
-/

namespace Calculator

/-! ### Wrong tokens -/

/-- The place or the count that a defect names. -/
def Defect.number : Defect → Nat
  | .emptyGroup position => position
  | .unmatched position => position
  | .unclosed position => position
  | .missingOperand _ position => position
  | .leftover count => count

/-- An error tells what is wrong with the tokens, and not with the length of the text. What it names
is within a bound. -/
def ExpressionError.IsOfTokens (bound : Nat) : ExpressionError → Prop
  | .invalidToken _ position => ∀ p, position = some p → p ≤ bound
  | .malformed defect => defect.number ≤ bound
  | .empty => True
  | .tooLong _ _ => False

variable {error : ExpressionError} {bound : Nat}

/-- A wider bound does as well. -/
theorem ExpressionError.IsOfTokens.mono {bound' : Nat} (h : error.IsOfTokens bound)
    (hle : bound ≤ bound') : error.IsOfTokens bound' := by
  cases error with
  | invalidToken text position => exact fun p hp => (h p hp).trans hle
  | malformed defect => exact Nat.le_trans h hle
  | empty => trivial
  | tooLong length limit => exact h.elim

/-! ### Fragments -/

namespace Fragment

/-- The open word ends as at most one fragment. -/
private theorem length_closeWord_le (word : List Char) (done : List (List Char)) :
    (Text.closeWord word done).length ≤ done.length + word.length := by
  cases word <;> simp [Text.closeWord]

/-- There are no more raw fragments than characters. -/
private theorem length_collect_le (done : List (List Char)) (word chars : List Char) :
    (collect done word chars).length ≤ done.length + word.length + chars.length := by
  induction chars generalizing done word with
  | nil =>
      rw [collect, List.length_reverse]
      exact length_closeWord_le word done
  | cons c rest ih =>
      have hclose := length_closeWord_le word done
      rw [collect, List.length_cons]
      split
      · have hrest := ih (Text.closeWord word done) []
        rw [List.length_nil] at hrest
        omega
      · split
        · have hrest := ih ([c] :: Text.closeWord word done) []
          rw [List.length_nil, List.length_cons] at hrest
          omega
        · have hrest := ih done (c :: word)
          rw [List.length_cons] at hrest
          omega

/-- Joining signs makes no more fragments. -/
private theorem length_joinInto_le (done fragments : List (List Char)) :
    (joinInto done fragments).length ≤ done.length + fragments.length := by
  fun_induction joinInto done fragments <;> simp_all <;> omega

/-- **There are no more fragments than characters.** -/
theorem length_split_le (text : String) : (split text).length ≤ text.length := by
  have hcut := length_collect_le [] [] text.toList
  have hjoin := length_joinInto_le [] (cut text.toList)
  rw [split, List.length_map, joinSigns]
  simp only [cut, List.length_nil, Nat.zero_add, String.length_toList] at hcut hjoin ⊢
  exact hjoin.trans hcut

end Fragment

/-- As many tokens are read as there are items, or one of these is refused at its place. -/
private theorem cases_of_readInto (read : List Token) (items : List Item) :
    (∃ tokens, readInto read items = .ok tokens ∧ tokens.length = read.length + items.length) ∨
      ∃ error, readInto read items = .error error ∧
        error.IsOfTokens (read.length + items.length) := by
  induction items generalizing read with
  | nil => exact Or.inl ⟨_, rfl, by simp⟩
  | cons item rest ih =>
      rw [readInto]
      split
      · next token _ =>
        have hlength :
            (token :: read).length + rest.length = read.length + (item :: rest).length := by
          simp only [List.length_cons]
          omega
        rw [← hlength]
        exact ih _
      · refine Or.inr ⟨_, rfl, fun p hp => ?_⟩
        obtain rfl := Option.some.inj hp
        exact Nat.le_add_right _ _

/-! ### Conversion -/

namespace Conversion

/-- No more has been kept than was read. -/
def IsWithin (state : Conversion) : Prop :=
  state.emitted.length + state.pending.length ≤ state.position

/-- A list that is cut in two keeps its length. -/
private theorem length_span (p : Token → Bool) (tokens : List Token) :
    (tokens.span p).1.length + (tokens.span p).2.length = tokens.length := by
  rw [← List.length_append, List.span_eq_takeWhile_dropWhile, List.takeWhile_append_dropWhile]

/-- Closing a group keeps no more than there was, or the defect is at the token. -/
private theorem cases_of_closeGroup {state : Conversion} (h : state.IsWithin) :
    (∃ closed, state.closeGroup = .ok closed ∧ closed.IsWithin ∧
        closed.position = state.position) ∨
      ∃ defect, state.closeGroup = .error defect ∧ defect.number = state.position := by
  have hspan := length_span (!·.isLeftParen) state.pending
  rw [closeGroup]
  split
  · exact Or.inr ⟨_, rfl, rfl⟩
  · split
    · exact Or.inr ⟨_, rfl, rfl⟩
    · next leaving closing staying heq =>
      refine Or.inl ⟨_, rfl, ?_, rfl⟩
      simp only [heq, List.length_cons] at hspan
      rw [IsWithin] at h
      simp only [IsWithin, List.length_append, List.length_reverse]
      omega

/-- One token more was read, and no more than it is kept besides; or the defect is at the token. -/
private theorem cases_of_step {state : Conversion} (h : state.IsWithin) (token : Token) :
    (∃ next, state.step token = .ok next ∧ next.IsWithin ∧ next.position = state.position + 1) ∨
      ∃ defect, state.step token = .error defect ∧ defect.number = state.position := by
  rw [IsWithin] at h
  cases hkind : token.kind with
  | number =>
      refine Or.inl ⟨_, by rw [step, hkind], ?_, rfl⟩
      simp only [IsWithin, advance, emit, List.length_cons]
      omega
  | leftParen =>
      refine Or.inl ⟨_, by rw [step, hkind], ?_, rfl⟩
      simp only [IsWithin, advance, openGroup, List.length_cons]
      omega
  | operator =>
      refine Or.inl ⟨_, by rw [step, hkind], ?_, rfl⟩
      have hspan := length_span (yieldsTo token) state.pending
      simp only [IsWithin, advance, stack, List.length_cons, List.length_append,
        List.length_reverse]
      omega
  | rightParen =>
      rcases cases_of_closeGroup h with
        ⟨closed, hclosed, hwithin, hposition⟩ | ⟨defect, hdefect, hnumber⟩
      · refine Or.inl ⟨closed.advance token, by rw [step, hkind, hclosed], ?_, ?_⟩
        · exact Nat.le_succ_of_le hwithin
        · exact congrArg (· + 1) hposition
      · exact Or.inr ⟨defect, by rw [step, hkind, hdefect], hnumber⟩

/-- All tokens were read, or the defect is at one of them. -/
private theorem cases_of_run {state : Conversion} (h : state.IsWithin) (tokens : List Token) :
    (∃ last, state.run tokens = .ok last ∧ last.IsWithin ∧
        last.position = state.position + tokens.length) ∨
      ∃ defect, state.run tokens = .error defect ∧
        defect.number ≤ state.position + tokens.length := by
  induction tokens generalizing state with
  | nil => exact Or.inl ⟨state, rfl, h, rfl⟩
  | cons token rest ih =>
      rcases cases_of_step h token with ⟨next, hstep, hnext, hposition⟩ | ⟨defect, hstep, hnumber⟩
      · have hlength : next.position + rest.length = state.position + (token :: rest).length := by
          rw [hposition, List.length_cons]
          omega
        rw [run, hstep, ← hlength]
        exact ih hnext
      · exact Or.inr ⟨defect, by rw [run, hstep], by omega⟩

/-- No more tokens are emitted than were read, and no more are before an open group. -/
private theorem cases_of_finish {state : Conversion} (h : state.IsWithin) :
    (∃ listing, state.finish = .ok listing ∧ listing.length ≤ state.position) ∨
      ∃ defect, state.finish = .error defect ∧ defect.number ≤ state.position := by
  have hspan := length_span (!·.isLeftParen) state.pending
  have hemitted : ((state.pending.span (!·.isLeftParen)).1.reverse ++ state.emitted).length ≤
      state.position := by
    rw [IsWithin] at h
    rw [List.length_append, List.length_reverse]
    omega
  simp only [finish]
  split
  · exact Or.inl ⟨_, rfl, by rwa [List.length_reverse]⟩
  · exact Or.inr ⟨_, rfl, hemitted⟩

end Conversion

/-- A listing has no more tokens than were converted, or the defect is at one of them. -/
theorem cases_of_toPostfix (tokens : List Token) :
    (∃ listing, toPostfix tokens = .ok listing ∧ listing.length ≤ tokens.length) ∨
      ∃ defect, toPostfix tokens = .error defect ∧ defect.number ≤ tokens.length := by
  have hstart : ({} : Conversion).IsWithin := Nat.le_refl 0
  rcases Conversion.cases_of_run hstart tokens with
    ⟨last, hrun, hlast, hposition⟩ | ⟨defect, hrun, hnumber⟩
  · rw [toPostfix, hrun]
    have hread : last.position = tokens.length := hposition.trans (Nat.zero_add _)
    rw [← hread]
    exact Conversion.cases_of_finish hlast
  · exact Or.inr ⟨defect, by rw [toPostfix, hrun], hnumber.trans (Nat.le_of_eq (Nat.zero_add _))⟩

/-! ### Evaluation -/

section

variable {ν : Type} (arithmetic : Arithmetic ν)

/-- One token more was read, and at most one value more is there; or the token is refused. -/
private theorem cases_of_step {state : Evaluation ν} (h : state.values.length ≤ state.position)
    (token : Token) :
    (∃ next, state.step arithmetic token = .ok next ∧ next.values.length ≤ next.position ∧
        next.position = state.position + 1) ∨
      ∃ error, state.step arithmetic token = .error error ∧ error.IsOfTokens state.position := by
  rw [Evaluation.step]
  split
  · exact Or.inl ⟨_, rfl, Nat.succ_le_succ h, rfl⟩
  · split
    · next second first below hvalues =>
      split
      · refine Or.inl ⟨_, rfl, ?_, rfl⟩
        rw [hvalues] at h
        simp only [List.length_cons] at h ⊢
        omega
      · exact Or.inr ⟨_, rfl, fun p hp => absurd hp.symm (Option.some_ne_none p)⟩
    · exact Or.inr ⟨_, rfl, Nat.le_refl _⟩
  · refine Or.inr ⟨_, rfl, fun p hp => ?_⟩
    obtain rfl := Option.some.inj hp
    exact Nat.le_refl _

/-- All tokens were read, and there are no more values; or one of the tokens is refused. -/
private theorem cases_of_run {state : Evaluation ν} (h : state.values.length ≤ state.position)
    (tokens : List Token) :
    (∃ last, state.run arithmetic tokens = .ok last ∧
        last.values.length ≤ state.position + tokens.length) ∨
      ∃ error, state.run arithmetic tokens = .error error ∧
        error.IsOfTokens (state.position + tokens.length) := by
  induction tokens generalizing state with
  | nil => exact Or.inl ⟨state, rfl, h⟩
  | cons token rest ih =>
      rcases cases_of_step arithmetic h token with
        ⟨next, hstep, hnext, hposition⟩ | ⟨error, hstep, herror⟩
      · have hlength : next.position + rest.length = state.position + (token :: rest).length := by
          rw [hposition, List.length_cons]
          omega
        rw [Evaluation.run, hstep, ← hlength]
        exact ih hnext
      · exact Or.inr ⟨error, by rw [Evaluation.run, hstep], herror.mono (Nat.le_add_right _ _)⟩

/-- Tokens have no value for what they are, and how many. -/
theorem isOfTokens_of_evaluatePostfix {arithmetic : Arithmetic ν} {tokens : List Token}
    (h : evaluatePostfix arithmetic tokens = .error error) : error.IsOfTokens tokens.length := by
  have hstart : ({} : Evaluation ν).values.length ≤ ({} : Evaluation ν).position := Nat.le_refl 0
  have hzero : ({} : Evaluation ν).position + tokens.length = tokens.length := Nat.zero_add _
  rw [evaluatePostfix] at h
  split at h
  · obtain rfl := Except.error.inj h
    trivial
  · rcases cases_of_run arithmetic hstart tokens with
      ⟨last, hrun, hvalues⟩ | ⟨refused, hrun, hrefused⟩
    · rw [hzero] at hvalues
      simp only [hrun, Evaluation.finish] at h
      split at h
      · simp at h
      · obtain rfl := Except.error.inj h
        exact hvalues
    · rw [hrun] at h
      obtain rfl := Except.error.inj h
      exact hzero ▸ hrefused

end

/-! ### Refusals -/

/-- The failures of conversion and evaluation of a text under given settings. -/
inductive Refusal (settings : Settings) (text : String) : Fault → Prop where
  /-- The settings give no length limit. -/
  | unlimited {error : SettingsError} (h : settings.lengthLimit = .error error) :
      Refusal settings text error.toFault
  /-- The text is longer than the limit. -/
  | tooLong {limit : Limit} (h : settings.lengthLimit = .ok limit) :
      Refusal settings text (ExpressionError.tooLong text.length limit).toFault
  /-- The tokens are wrong. -/
  | tokens {error : ExpressionError} (h : error.IsOfTokens text.length) :
      Refusal settings text error.toFault

/-- A sequence fails in its first or in its second part. -/
private theorem error_of_bind {ε α β : Type} {result : Except ε α} {next : α → Except ε β}
    {fault : ε} (h : result.bind next = .error fault) :
    result = .error fault ∨ ∃ value, result = .ok value ∧ next value = .error fault := by
  cases result with
  | error reason => exact Or.inl (congrArg Except.error (Except.error.inj h))
  | ok value => exact Or.inr ⟨value, rfl, h⟩

/-- A translated failure is that of a failure. -/
private theorem error_of_mapError {ε ε' α : Type} {result : Except ε α} {f : ε → ε'} {fault : ε'}
    (h : result.mapError f = .error fault) : ∃ error, result = .error error ∧ f error = fault := by
  cases result with
  | error error => exact ⟨error, rfl, Except.error.inj h⟩
  | ok value => simp [Except.mapError] at h

/-- A translated value is that of a value. -/
private theorem ok_of_mapError {ε ε' α : Type} {result : Except ε α} {f : ε → ε'} {value : α}
    (h : result.mapError f = .ok value) : result = .ok value := by
  cases result with
  | error error => simp [Except.mapError] at h
  | ok value => exact congrArg Except.ok (Except.ok.inj h)

variable {settings : Settings} {text : String} {fault : Fault}

/-- A text within the limit has no more tokens than characters, or it is refused for its length or
for its fragments. -/
private theorem cases_of_tokenizeWithin (text : String) {limit : Limit}
    (hlimit : settings.lengthLimit = .ok limit) :
    (∃ tokens, tokenizeWithin limit text = .ok tokens ∧ tokens.length ≤ text.length) ∨
      ∃ error, tokenizeWithin limit text = .error error ∧ Refusal settings text error.toFault := by
  rw [tokenizeWithin, splitWithin, checkLength]
  cases limit.isExceededBy text.length with
  | true => exact Or.inr ⟨_, rfl, .tooLong hlimit⟩
  | false =>
      have hlength : ([] : List Token).length +
          ((Fragment.split text).map Item.text).length ≤ text.length := by
        simpa using Fragment.length_split_le text
      rcases cases_of_readInto [] ((Fragment.split text).map Item.text) with
        ⟨tokens, hread, htokens⟩ | ⟨error, hread, herror⟩
      · exact Or.inl ⟨tokens, hread, htokens ▸ hlength⟩
      · exact Or.inr ⟨error, hread, .tokens (herror.mono hlength)⟩

/-- A text has no more tokens than characters. -/
private theorem length_of_tokenize {tokens : List Token} (h : tokenize settings text = .ok tokens) :
    tokens.length ≤ text.length := by
  rw [tokenize, withLimit] at h
  cases hlimit : settings.lengthLimit with
  | error error => simp [hlimit] at h
  | ok limit =>
      rw [hlimit] at h
      have htokens := ok_of_mapError h
      rcases cases_of_tokenizeWithin text hlimit with
        ⟨found, hfound, hlength⟩ | ⟨error, hfound, -⟩
      · obtain rfl := Except.ok.inj (hfound.symm.trans htokens)
        exact hlength
      · simp [hfound] at htokens

/-- A text that is not tokenized is refused. -/
theorem refusal_of_tokenize (h : tokenize settings text = .error fault) :
    Refusal settings text fault := by
  rw [tokenize, withLimit] at h
  cases hlimit : settings.lengthLimit with
  | ok limit =>
      rw [hlimit] at h
      obtain ⟨error, htokens, rfl⟩ := error_of_mapError h
      rcases cases_of_tokenizeWithin text hlimit with
        ⟨found, hfound, -⟩ | ⟨refused, hfound, hrefusal⟩
      · simp [hfound] at htokens
      · obtain rfl := Except.error.inj (hfound.symm.trans htokens)
        exact hrefusal
  | error error =>
      rw [hlimit] at h
      obtain rfl := Except.error.inj h
      exact .unlimited hlimit

/-- A text without a listing is refused. -/
theorem refusal_of_listingOf (h : listingOf settings text = .error fault) :
    Refusal settings text fault := by
  rcases error_of_bind h with htokens | ⟨tokens, htokens, hlisting⟩
  · exact refusal_of_tokenize htokens
  · obtain ⟨defect, hdefect, rfl⟩ := error_of_mapError hlisting
    rcases cases_of_toPostfix tokens with ⟨listing, hok, -⟩ | ⟨found, hfound, hnumber⟩
    · simp [hok] at hdefect
    · obtain rfl := Except.error.inj (hfound.symm.trans hdefect)
      exact .tokens (hnumber.trans (length_of_tokenize htokens))

/-- A listing of a text has no more tokens than the text has characters. -/
private theorem length_of_listingOf {listing : List Token}
    (h : listingOf settings text = .ok listing) : listing.length ≤ text.length := by
  rw [listingOf] at h
  cases htokens : tokenize settings text with
  | error reason => simp [htokens, Except.bind] at h
  | ok tokens =>
      rw [htokens] at h
      have hlisting := ok_of_mapError h
      rcases cases_of_toPostfix tokens with ⟨found, hfound, hlength⟩ | ⟨defect, hdefect, -⟩
      · obtain rfl := Except.ok.inj (hfound.symm.trans hlisting)
        exact hlength.trans (length_of_tokenize htokens)
      · simp [hdefect] at hlisting

/-- A text without a postfix form is refused. -/
theorem refusal_of_toPostfixText (h : (toPostfixText settings text).outcome = .error fault) :
    Refusal settings text fault := by
  rw [toPostfixText_outcome] at h
  split at h
  · simp at h
  · cases hlisting : listingOf settings text with
    | ok listing => simp [hlisting, Except.map] at h
    | error reason =>
        rw [hlisting] at h
        obtain rfl := Except.error.inj h
        exact refusal_of_listingOf hlisting

/-- A text without a value is refused. -/
theorem refusal_of_evaluate (h : (evaluate settings text).outcome = .error fault) :
    Refusal settings text fault := by
  rw [evaluate_outcome] at h
  split at h
  · obtain rfl := Except.error.inj h
    exact .tokens trivial
  · rcases error_of_bind h with hlisting | ⟨listing, hlisting, hvalue⟩
    · exact refusal_of_listingOf hlisting
    · obtain ⟨error, hpostfix, rfl⟩ := error_of_mapError hvalue
      exact .tokens ((isOfTokens_of_evaluatePostfix hpostfix).mono (length_of_listingOf hlisting))

end Calculator
