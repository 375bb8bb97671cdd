import Calculator.Proofs.Expression.Outcome

/-!
# The length limit as a gate

A text above the limit is refused for its length alone, before anything of it is read, and what is
made of a text within the limit does not depend on the limit. Only a blank text gets past the gate,
and only where it is asked for being blank first: its postfix form is empty and it is nothing to
evaluate, under every limit and even without one.

## Main results

* `fragments_of_exceeded`, `tokenize_of_exceeded`: a text above the limit.
* `fragments_of_within`, `tokenize_of_within`: a text within the limit, without mention of it.
* `toPostfixText_congr`, `evaluate_congr`, `tryEvaluate_congr`: the settings matter through the
  tokens only.
* `outcomes_of_limit`: **the gate**, for all five operations on a text.
-/

namespace Calculator

variable {settings settings' : Settings} {limit limit' : Limit} {text : String}

/-! ### Above the limit -/

/-- The failure of a text above the limit. -/
def tooLongFault (text : String) (limit : Limit) : Fault :=
  .problem (.tooLong (.nat text.length) limit.toJson)

/-- A text above the limit has no fragments. -/
theorem fragments_of_exceeded (hlimit : settings.lengthLimit = .ok limit)
    (h : limit.isExceededBy text.length = true) :
    fragments settings text = .error (tooLongFault text limit) := by
  have hsplit : splitWithin limit text = .error (.tooLong text.length limit) := by
    rw [splitWithin, checkLength, if_pos h]
  rw [fragments, withLimit, hlimit]
  simp only [hsplit]
  rfl

/-- A text above the limit has no tokens. -/
theorem tokenize_of_exceeded (hlimit : settings.lengthLimit = .ok limit)
    (h : limit.isExceededBy text.length = true) :
    tokenize settings text = .error (tooLongFault text limit) := by
  have htokens : tokenizeWithin limit text = .error (.tooLong text.length limit) := by
    rw [tokenizeWithin, splitWithin, checkLength, if_pos h]
  rw [tokenize, withLimit, hlimit]
  simp only [htokens]
  rfl

/-- A text above the limit has no tokens in postfix order. -/
theorem listingOf_of_exceeded (hlimit : settings.lengthLimit = .ok limit)
    (h : limit.isExceededBy text.length = true) :
    listingOf settings text = .error (tooLongFault text limit) := by
  rw [listingOf, tokenize_of_exceeded hlimit h]
  rfl

/-! ### Within the limit -/

/-- A text within the limit is split. -/
theorem fragments_of_within (hlimit : settings.lengthLimit = .ok limit)
    (h : limit.isExceededBy text.length = false) :
    fragments settings text = .ok (Fragment.split text) := by
  have hsplit : splitWithin limit text = .ok (Fragment.split text) := by
    simp [splitWithin, checkLength, h]
  rw [fragments, withLimit, hlimit]
  simp only [hsplit]
  rfl

/-- A text within the limit is read fragment by fragment. -/
theorem tokenize_of_within (hlimit : settings.lengthLimit = .ok limit)
    (h : limit.isExceededBy text.length = false) :
    tokenize settings text =
      (readTexts (Fragment.split text)).mapError ExpressionError.toFault := by
  have htokens : tokenizeWithin limit text = readTexts (Fragment.split text) := by
    simp [tokenizeWithin, splitWithin, checkLength, h]
  rw [tokenize, withLimit, hlimit]
  simp only [htokens]

/-! ### What the settings matter for -/

section

variable (h : tokenize settings text = tokenize settings' text)

include h

/-- A text of which nothing is known yet is converted by way of its tokens. -/
private theorem postfixTokens_congr :
    (Expression.mk text none none).postfixTokens settings =
      (Expression.mk text none none).postfixTokens settings' := by
  simp only [Expression.postfixTokens, Expression.tokens, h]

/-- The settings matter for the postfix form through the tokens only. -/
theorem toPostfixText_congr : toPostfixText settings text = toPostfixText settings' text := by
  simp only [toPostfixText, Expression.postfixText, postfixTokens_congr h]

/-- The settings matter for the value through the tokens only. -/
theorem evaluate_congr : evaluate settings text = evaluate settings' text := by
  simp only [evaluate, Expression.evaluate, postfixTokens_congr h]

/-- The settings matter for an evaluation that keeps its problem through the tokens only. -/
theorem tryEvaluate_congr : tryEvaluate settings text = tryEvaluate settings' text := by
  simp only [tryEvaluate, evaluate_congr h]

end

/-! ### The gate -/

/-- A text that is not blank and above the limit is refused by everything that is asked of it. -/
private theorem outcomes_of_exceeded (hlimit : settings.lengthLimit = .ok limit)
    (h : limit.isExceededBy text.length = true) (hblank : Text.isBlankText text = false) :
    (toPostfixText settings text).outcome = .error (tooLongFault text limit) ∧
      (evaluate settings text).outcome = .error (tooLongFault text limit) := by
  have hlisting := listingOf_of_exceeded hlimit h
  rw [toPostfixText_outcome, evaluate_outcome, hblank, hlisting]
  exact ⟨rfl, rfl⟩

/-- A blank text has an empty postfix form and no value, whatever the settings are. -/
theorem outcomes_of_isBlankText (settings : Settings) (h : Text.isBlankText text = true) :
    (toPostfixText settings text).outcome = .ok "" ∧
      (evaluate settings text).outcome = .error ExpressionError.empty.toFault := by
  rw [toPostfixText_outcome, evaluate_outcome, if_pos h, if_pos h]
  exact ⟨rfl, rfl⟩

/-- **The length limit is a gate.** A text above the limit is neither split nor tokenized, and if it
is not blank, it has no postfix form and no value either: all refuse it with the problem that names
its length and the limit, and an evaluation that keeps its problem keeps this one. A blank text
above the limit has an empty postfix form and is nothing to evaluate. And of a text within the limit
all five operations make, with the same events, what they make of it under any other limit that it
does not exceed. -/
theorem outcomes_of_limit (hlimit : settings.lengthLimit = .ok limit) (text : String) :
    (limit.isExceededBy text.length = true →
      fragments settings text = .error (tooLongFault text limit) ∧
      tokenize settings text = .error (tooLongFault text limit) ∧
      (Text.isBlankText text = false →
        (toPostfixText settings text).outcome = .error (tooLongFault text limit) ∧
        (evaluate settings text).outcome = .error (tooLongFault text limit) ∧
        ∃ problem, (tryEvaluate settings text).outcome = .ok (.rejected problem) ∧
          Fault.problem problem = tooLongFault text limit ∧
          problem.code = "EXPRESSION_TOO_LONG") ∧
      (Text.isBlankText text = true →
        (toPostfixText settings text).outcome = .ok "" ∧
        (evaluate settings text).outcome = .error ExpressionError.empty.toFault ∧
        (tryEvaluate settings text).outcome = .ok (.rejected ExpressionError.empty.toProblem))) ∧
    (limit.isExceededBy text.length = false →
      ∀ settings' limit', settings'.lengthLimit = .ok limit' →
        limit'.isExceededBy text.length = false →
        fragments settings text = fragments settings' text ∧
        tokenize settings text = tokenize settings' text ∧
        toPostfixText settings text = toPostfixText settings' text ∧
        evaluate settings text = evaluate settings' text ∧
        tryEvaluate settings text = tryEvaluate settings' text) := by
  have htry : (tryEvaluate settings text).outcome =
      Evaluated.ofResult (evaluate settings text).outcome := rfl
  constructor
  · intro hexceeded
    refine ⟨fragments_of_exceeded hlimit hexceeded, tokenize_of_exceeded hlimit hexceeded, ?_, ?_⟩
    · intro hblank
      obtain ⟨hconverted, hvalue⟩ := outcomes_of_exceeded hlimit hexceeded hblank
      refine ⟨hconverted, hvalue, .tooLong (.nat text.length) limit.toJson, ?_, rfl, rfl⟩
      rw [htry, hvalue]
      rfl
    · intro hblank
      obtain ⟨hconverted, hvalue⟩ := outcomes_of_isBlankText settings hblank
      refine ⟨hconverted, hvalue, ?_⟩
      rw [htry, hvalue]
      rfl
  · intro hwithin settings' limit' hlimit' hwithin'
    have hfragments : fragments settings text = fragments settings' text := by
      rw [fragments_of_within hlimit hwithin, fragments_of_within hlimit' hwithin']
    have htokens : tokenize settings text = tokenize settings' text := by
      rw [tokenize_of_within hlimit hwithin, tokenize_of_within hlimit' hwithin']
    exact ⟨hfragments, htokens, toPostfixText_congr htokens, evaluate_congr htokens,
      tryEvaluate_congr htokens⟩

/-- A limit of three lets `1+1` pass, as the limit of ten thousand does, and refuses `1+1+1`. -/
theorem outcomes_of_limit_three :
    let settings : Settings := { overrides := some [("max_expression_length", .int 3)] }
    settings.lengthLimit = .ok (.whole 3) ∧
      (evaluate settings "1+1+1").outcome = .error (tooLongFault "1+1+1" (.whole 3)) ∧
      evaluate settings "1+1" = evaluate {} "1+1" := by
  intro settings
  have hlimit : settings.lengthLimit = .ok (.whole 3) := rfl
  have hdefault : Settings.lengthLimit {} = .ok (.whole 10000) := rfl
  obtain ⟨-, -, habove, -⟩ := (outcomes_of_limit hlimit "1+1+1").1 (by decide)
  obtain ⟨-, -, -, hwithin, -⟩ :=
    (outcomes_of_limit hlimit "1+1").2 (by decide) {} (.whole 10000) hdefault (by decide)
  obtain ⟨-, hvalue, -⟩ := habove (by decide)
  exact ⟨hlimit, hvalue, hwithin⟩

/-- Four spaces are above a limit of three, and yet they have a postfix form. -/
theorem toPostfixText_blank_exceeding :
    let settings : Settings := { overrides := some [("max_expression_length", .int 3)] }
    settings.lengthLimit = .ok (.whole 3) ∧ (Limit.whole 3).isExceededBy "    ".length = true ∧
      (toPostfixText settings "    ").outcome = .ok "" ∧
      (toPostfixText settings "    ").outcome ≠ .error (tooLongFault "    " (.whole 3)) := by
  intro settings
  have hempty : (toPostfixText settings "    ").outcome = .ok "" := rfl
  refine ⟨rfl, by decide, hempty, ?_⟩
  rw [hempty]
  exact nofun

end Calculator
