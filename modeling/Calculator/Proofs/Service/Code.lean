import Calculator.Proofs.Expression.LengthLimit
import Calculator.Proofs.Json.Members
import Calculator.Proofs.Service.Agreement

/-!
# Codes of reports

Clients tell failures apart by a code, which stands in the text of a report. A plain code can be
told from the text: no report with another code is written like a report with this one, in either
shape, and no answer is. So it is a fact about the texts that a server sends whether it sends such a
code, and a refusal has the code for misconfiguration only if the settings give no length limit.

## Main definitions

* `Service.Reports`: a text of a server reports a failure with a code.

## Main results

* `Service.Reports.eq_of_isPlain`: a plain code can be told from the text.
* `Service.not_reports_of_first`: what does not begin like a report is no report.
* `Operation.exists_result`: what an operation may answer.
* `Operation.outcome_of_unlimited`: an operation that needs a length limit fails without one.
* `Refusal.unlimited_of_code`: a refusal with the code for misconfiguration tells of the length
  limit.
-/

namespace Calculator

open Json

/-! ### Codes and texts -/

namespace Service

/-- A text of a server reports a failure with a code. -/
def Reports (service : Service) (code text : String) : Prop :=
  ∃ message details hint standIns,
    text = (service.failureObject code message details hint).render
      (service.layout.withStandIns standIns)

variable {service : Service} {code code' text : String}

/-- A server reports with the code of the report. -/
theorem reports_render (service : Service) (report : Report)
    (standIns : Option Text.Surrogate.Block) :
    service.Reports report.code
      ((service.shape report).render (service.layout.withStandIns standIns)) :=
  ⟨_, _, _, standIns, by rw [service.shape_eq]⟩

/-- What the report of a server begins with, up to the code. -/
private def opening (service : Service) : List Char :=
  let first := '\x7b' :: '"' :: ("status".toList ++ '"' :: (service.layout.keySeparator.toList ++
    '"' :: ("error".toList ++ '"' :: (service.layout.itemSeparator.toList ++ ['"']))))
  match service with
  | .web => first ++ "error".toList ++ '"' :: (service.layout.keySeparator.toList ++
      '\x7b' :: '"' :: ("code".toList ++ '"' :: (service.layout.keySeparator.toList ++ ['"'])))
  | .tools => first ++ "error_code".toList ++ '"' :: (service.layout.keySeparator.toList ++ ['"'])

/-- The code of a report follows the opening, up to the next mark. -/
private theorem Reports.exists_toList (h : service.Reports code text) :
    ∃ layout after, text.toList = service.opening ++ (marked layout code ++ '"' :: after) := by
  obtain ⟨message, details, hint, standIns, rfl⟩ := h
  have hstatus : IsPlain "status" := by decide
  have herror : IsPlain "error" := by decide
  refine ⟨service.layout.withStandIns standIns, ?_⟩
  cases service with
  | web =>
      have hcode : IsPlain "code" := by decide
      simp only [failureObject, toList_render_cons, furtherMembers_cons, toList_render_str,
        hstatus.marked_eq, herror.marked_eq, hcode.marked_eq, opening, List.append_assoc,
        List.cons_append, List.nil_append]
      exact ⟨_, rfl⟩
  | tools =>
      have hcode : IsPlain "error_code" := by decide
      simp only [failureObject, toList_render_cons, furtherMembers_cons, toList_render_str,
        hstatus.marked_eq, herror.marked_eq, hcode.marked_eq, opening, List.append_assoc,
        List.cons_append, List.nil_append]
      exact ⟨_, rfl⟩

/-- **A plain code can be told from the text** of a report. -/
theorem Reports.eq_of_isPlain (h : service.Reports code text) (hplain : IsPlain code)
    (h' : service.Reports code' text) : code' = code := by
  obtain ⟨layout, after, htext⟩ := h.exists_toList
  obtain ⟨layout', after', htext'⟩ := h'.exists_toList
  rw [htext, hplain.marked_eq] at htext'
  exact hplain.eq_of_marked (List.append_cancel_left htext').symm

/-- An object that does not begin with the status of a report is no report. -/
theorem not_reports_of_first {key first : String} {rest : Fields} (hkey : IsPlain key)
    (hfirst : IsPlain first) (hne : (key, first) ≠ ("status", "error")) :
    ¬ service.Reports code ((Json.obj ((key, .str first) :: rest)).render service.layout) := by
  rintro ⟨message, details, hint, standIns, htext⟩
  have hstatus : IsPlain "status" := by decide
  have herror : IsPlain "error" := by decide
  obtain ⟨members, hobject⟩ : ∃ members, service.failureObject code message details hint =
      .obj (("status", .str "error") :: members) := by
    cases service <;> exact ⟨_, rfl⟩
  have hmembers := congrArg String.toList htext
  rw [hobject, toList_render_cons, toList_render_cons, hkey.marked_eq,
    hstatus.marked_eq] at hmembers
  have hkeys := (List.cons.inj (List.cons.inj hmembers).2).2
  obtain rfl := hstatus.eq_of_toList hkey hkeys
  -- the keys are the same, and so is what separates them from the texts
  have hvalues := List.append_cancel_left (List.cons.inj (List.append_cancel_left hkeys)).2
  rw [toList_render_str, toList_render_str, hfirst.marked_eq, herror.marked_eq] at hvalues
  simp only [List.cons_append, List.append_assoc, List.nil_append] at hvalues
  obtain rfl := herror.eq_of_toList hfirst (List.cons.inj hvalues).2
  exact hne rfl

end Service

/-! ### Outcomes of operations -/

namespace Operation

variable {operation : Operation} {settings : Settings} {text : String}

/-- What an operation answers is of its kind, and JSON can write the result. -/
theorem exists_result {answer : Answer} (h : operation.outcome settings text = .ok answer) :
    ∃ result : Json, answer = ⟨operation.kind, result⟩ ∧ result.IsWritable := by
  cases operation with
  | conversion =>
      cases hlisting : (toPostfixText settings text).outcome with
      | error fault => simp [outcome, hlisting, Except.map] at h
      | ok listing =>
          rw [outcome_conversion hlisting] at h
          obtain rfl := Except.ok.inj h
          exact ⟨_, rfl, isWritable_str listing⟩
  | evaluation =>
      cases hvalue : (evaluate settings text).outcome with
      | error fault => simp [outcome, hvalue, Except.map] at h
      | ok x =>
          rw [outcome_evaluation hvalue] at h
          obtain rfl := Except.ok.inj h
          exact ⟨_, rfl, (writtenAs_valueJson x).isWritable⟩

/-- An operation needs the length limit for a text that is not blank, and fails without one. -/
theorem outcome_of_unlimited {error : SettingsError} (hblank : Text.isBlankText text = false)
    (h : settings.lengthLimit = .error error) :
    operation.outcome settings text = .error error.toFault := by
  have hlisting : listingOf settings text = .error error.toFault := by
    rw [listingOf, tokenize, withLimit, h]
    rfl
  cases operation with
  | conversion =>
      rw [outcome, toPostfixText_outcome, hblank, hlisting]
      rfl
  | evaluation =>
      rw [outcome, evaluate_outcome, hblank, hlisting]
      rfl

/-- An operation does not need the length limit for a blank text. -/
theorem outcome_of_isBlankText (settings : Settings) (hblank : Text.isBlankText text = true) :
    operation.outcome settings text = operation.outcome {} text := by
  have hblanks := outcomes_of_isBlankText settings hblank
  have hblanks' := outcomes_of_isBlankText {} hblank
  cases operation with
  | conversion => rw [outcome, outcome, hblanks.1, hblanks'.1]
  | evaluation => rw [outcome, outcome, hblanks.2, hblanks'.2]

end Operation

/-! ### Codes of failures -/

/-- The report of a problem has the code of the problem. -/
theorem Report.code_of_ofProblem {problem : Problem} {report : Report}
    (h : Report.ofProblem problem = .ok report) : report.code = problem.code := by
  rw [ofProblem_eq] at h
  cases hhint : recoveryHint problem.code (Table.get? problem.details "reason") with
  | error fault => simp [hhint, Except.map] at h
  | ok hint =>
      rw [hhint] at h
      obtain rfl := Except.ok.inj h
      rfl

/-- What is wrong with an expression is no misconfiguration. -/
theorem ExpressionError.code_ne (error : ExpressionError) :
    error.toProblem.code ≠ "CONFIGURATION_ERROR" := by
  cases error with
  | invalidToken text position => exact (by decide : "INVALID_TOKEN" ≠ "CONFIGURATION_ERROR")
  | malformed defect => exact (by decide : "MALFORMED_EXPRESSION" ≠ "CONFIGURATION_ERROR")
  | empty => exact (by decide : "EMPTY_EXPRESSION" ≠ "CONFIGURATION_ERROR")
  | tooLong length limit => exact (by decide : "EXPRESSION_TOO_LONG" ≠ "CONFIGURATION_ERROR")

/-- **A refusal with the code for misconfiguration** tells that the settings give no length
limit. -/
theorem Refusal.unlimited_of_code {settings : Settings} {text : String} {fault : Fault}
    {report : Report} (h : Refusal settings text fault)
    (hreport : Report.ofFault fault = .ok report)
    (hcode : report.code = "CONFIGURATION_ERROR") :
    ∃ error, settings.lengthLimit = .error error ∧ fault = error.toFault := by
  have hexpression (error : ExpressionError) (hfault : fault = error.toFault) : False := by
    subst hfault
    have hproblem : Report.ofProblem error.toProblem = .ok report := hreport
    exact error.code_ne ((Report.code_of_ofProblem hproblem).symm.trans hcode)
  cases h with
  | unlimited herror => exact ⟨_, herror, rfl⟩
  | tooLong hlimit => exact (hexpression _ rfl).elim
  | tokens htokens => exact (hexpression _ rfl).elim

end Calculator
