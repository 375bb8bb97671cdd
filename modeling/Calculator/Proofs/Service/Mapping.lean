import Calculator.Proofs.Service.Report

/-!
# Reports in two forms

A failure of any kind is to be reported by its code, its message, its details and a hint how to
recover. The tool server and the web server write the same four under names of their own, so what
they say can only agree. The hint for a malformed expression is looked up by the reason in the
details. A reason that is not known is passed over for the code, but a list or an object cannot be
looked up by at all, and then there is no report in either form. Nor is there one of a failure that
nobody foresaw if it fails in its turn to tell a message. These are the only failures without a
report.

## Main definitions

* `Fault.code`, `Fault.details`: what a failure of any kind is reported with.
* `HintFor`: the hint that belongs to a code and a reason.
* `Fault.HasUnhashableReason`: the reason of a malformed expression cannot be looked up by.
* `Fault.IsWordless`: a failure fails to tell a message.
* `Report.Agree`: two forms of a report say the same.

## Main results

* `Report.ofFault_eq`: every failure with a message is reported alike.
* `HintFor.of_recoveryHint`: what is looked up is the hint that belongs to the code and the reason.
* `Report.agree`: the two forms of a report say the same.
* `Report.ofFault_forms`: **which failures are reported**, and what both forms of the report say.
-/

namespace Calculator

/-! ### Failures of any kind -/

namespace Fault

/-- The code that a failure is reported under. -/
def code : Fault → String
  | .problem p => p.code
  | .invalidRequest _ => "PYDANTIC_VALIDATION_ERROR"
  | _ => "INTERNAL_ERROR"

/-- What there is to know of a failure beyond its message. -/
def details : Fault → Fields
  | .problem p => p.details
  | .invalidRequest issues => [("errors", .arr (issues.map Report.ofIssue))]
  | fault => [("exception_type", .str fault.kind)]

/-- What is given as the reason of a failure, if anything is. -/
def reason? (fault : Fault) : Option Json := Table.get? fault.details "reason"

variable {fault : Fault}

/-- Only a problem can come without details. -/
theorem details_eq_nil_iff :
    fault.details = [] ↔ ∃ problem, fault = .problem problem ∧ problem.details = [] := by
  cases fault with
  | problem problem => simp [details]
  | invalidRequest issues => simp [details]
  | internal kind message => simp [details]
  | wordless kind reason => simp [details]

/-- A failure that nobody foresaw fails for a reason of its own to tell a message. -/
def IsWordless (fault reason : Fault) : Prop := ∃ kind, fault = .wordless kind reason

/-- A problem that makes an expression malformed for a reason that cannot be looked up by. -/
def HasUnhashableReason (fault : Fault) (reason : Json) : Prop :=
  ∃ problem, fault = .problem problem ∧ problem.code = "MALFORMED_EXPRESSION" ∧
    Table.get? problem.details "reason" = some reason ∧ reason.IsUnhashable

/-- Only problems have the code for malformed expressions. -/
theorem hasUnhashableReason_iff {reason : Json} :
    fault.HasUnhashableReason reason ↔
      fault.code = "MALFORMED_EXPRESSION" ∧ fault.reason? = some reason ∧ reason.IsUnhashable := by
  cases fault with
  | problem problem => simp [HasUnhashableReason, code, reason?, details]
  | invalidRequest issues => simp [HasUnhashableReason, code]
  | internal kind message => simp [HasUnhashableReason, code]
  | wordless kind found => simp [HasUnhashableReason, code]

end Fault

/-! ### Hints -/

/-- A malformed expression is given a reason that there is a hint for. -/
def IsKnownReason (code : String) (reason : Option Json) : Prop :=
  code = "MALFORMED_EXPRESSION" ∧ ∃ text ∈ Table.keys malformedHints, reason = some (.str text)

/-- The hint that belongs to a code and a reason: that for the reason if it is known, otherwise that
for the code, and otherwise the one for failures that have none of their own. -/
inductive HintFor (code : String) (reason : Option Json) : String → Prop
  | ofReason {text hint : String} (hcode : code = "MALFORMED_EXPRESSION")
      (hreason : reason = some (.str text)) (hhint : Table.get? malformedHints text = some hint) :
      HintFor code reason hint
  | ofCode {hint : String} (hreason : ¬ IsKnownReason code reason)
      (hhint : Table.get? hints code = some hint) : HintFor code reason hint
  | default (hreason : ¬ IsKnownReason code reason) (hhint : Table.get? hints code = none) :
      HintFor code reason defaultHint

namespace HintFor

variable {code hint : String} {reason : Option Json}

/-- Without a known reason, the hint is that for the code, if there is one. -/
theorem of_not_isKnownReason (h : ¬ IsKnownReason code reason) :
    HintFor code reason (hintOfCode code) := by
  rw [hintOfCode]
  cases hhint : Table.get? hints code with
  | some hint => exact .ofCode h hhint
  | none => exact .default h hhint

/-- **What is looked up** is the hint that belongs to the code and the reason. -/
theorem of_recoveryHint (h : recoveryHint code reason = .ok hint) : HintFor code reason hint := by
  unfold recoveryHint at h
  split at h
  · next hcode =>
    split at h
    · next text =>
      obtain rfl := Except.ok.inj h
      cases hhint : Table.get? malformedHints text with
      | some hint => exact .ofReason hcode rfl hhint
      | none =>
          refine of_not_isKnownReason ?_
          rintro ⟨-, known, hknown, htext⟩
          obtain rfl : text = known := Json.str.inj (Option.some.inj htext)
          exact (Table.get?_eq_none_iff _ _).mp hhint hknown
    · simp at h
    · simp at h
    · next htext _ _ =>
      obtain rfl := Except.ok.inj h
      refine of_not_isKnownReason ?_
      rintro ⟨-, known, -, hreason⟩
      exact htext known hreason
  · next hcode =>
    obtain rfl := Except.ok.inj h
    exact of_not_isKnownReason fun hknown => hcode hknown.1

end HintFor

/-! ### Reports -/

namespace Report

/-- **Every failure with a message is reported alike**: its code, its message, its details if there
are any, and the hint for the code and the reason. -/
theorem ofFault_eq {fault : Fault} (h : ∀ reason, ¬ fault.IsWordless reason) :
    ofFault fault = (recoveryHint fault.code fault.reason?).map fun hint =>
      ⟨fault.code, fault.message, detailsOf fault.details, hint⟩ := by
  cases fault with
  | problem problem => exact ofProblem_eq problem
  | invalidRequest issues => rfl
  | internal kind message => rfl
  | wordless kind reason => exact absurd ⟨kind, rfl⟩ (h reason)

/-- What a form says: each of the four under the name that stands for it. -/
structure Says (form : Json) (codeName messageName detailsName hintName : String)
    (report : Report) : Prop where
  /-- The code. -/
  code : form.get? codeName = some (.str report.code)
  /-- The message. -/
  message : form.get? messageName = some (.str report.message)
  /-- The details. -/
  details : form.get? detailsName = some report.detailsJson
  /-- The hint. -/
  hint : form.get? hintName = some (.str report.hint)

/-- Two forms of a report, as the tool server and the web server write it, say the same: both tell
of a failure, the one in its own members and the other in those of its error. -/
structure Agree (tool web : Json) (report : Report) : Prop where
  /-- Both forms tell of a failure. -/
  status : tool.get? "status" = some (.str "error") ∧ web.get? "status" = some (.str "error")
  /-- The tool server writes the report as it is. -/
  tool : Says tool "error_code" "message" "details" "recovery_strategy" report
  /-- The web server writes the same report under one name. -/
  web : ∃ error, web.get? "error" = some error ∧
    Says error "code" "message" "details" "recovery" report

/-- **The two forms of a report say the same.** -/
theorem agree (report : Report) : Agree report.toTool report.toWeb report where
  status := ⟨rfl, rfl⟩
  tool := ⟨rfl, rfl, rfl, rfl⟩
  web := ⟨_, rfl, rfl, rfl, rfl, rfl⟩

/-- A report tells what there is to know of a failure of any kind. -/
structure IsOf (report : Report) (fault : Fault) : Prop where
  /-- The code is that of the failure. -/
  code : report.code = fault.code
  /-- The message is that of the failure. -/
  message : report.message = fault.message
  /-- The details are those of the failure, if it has any. -/
  details : report.detailsJson = if fault.details.isEmpty then .null else .obj fault.details
  /-- There are no details exactly if the failure is a problem without any. -/
  absent : report.detailsJson = .null ↔
    ∃ problem, fault = .problem problem ∧ problem.details = []
  /-- The hint belongs to the code and the reason. -/
  hint : HintFor fault.code fault.reason? report.hint

/-- What was looked up makes the report of the failure. -/
theorem isOf_of_recoveryHint {fault : Fault} {hint : String}
    (h : recoveryHint fault.code fault.reason? = .ok hint) :
    IsOf ⟨fault.code, fault.message, detailsOf fault.details, hint⟩ fault := by
  have hdetails := ofOption_detailsOf fault.details
  refine ⟨rfl, rfl, hdetails, ?_, .of_recoveryHint h⟩
  rw [← Fault.details_eq_nil_iff, ← List.isEmpty_iff, detailsJson, hdetails]
  split
  · next hempty => simp [hempty]
  · next hempty => simp [hempty]

/-- **Which failures are reported.** A failure has a report unless it is a problem that makes an
expression malformed for a reason that is a list or an object: then the lookup of the hint fails; or
unless nobody foresaw it and it fails to tell a message: then it is the reason of that which there
is instead. In both cases there is neither form of a report. Any other failure has both forms, and
they say the same: the code, the message and the details of the failure, which are `null` exactly if
it is a problem without any, and the hint that belongs to the code and the reason. -/
theorem ofFault_forms (fault : Fault) :
    (∃ reason, fault.HasUnhashableReason reason ∧
        ofFault fault = .error
          (.internal "TypeError" ("unhashable type: '" ++ reason.typeName ++ "'"))) ∨
      (∃ reason, fault.IsWordless reason ∧ ofFault fault = .error reason) ∨
      ((∀ reason, ¬ fault.HasUnhashableReason reason) ∧ (∀ reason, ¬ fault.IsWordless reason) ∧
        ∃ report tool web, ofFault fault = .ok report ∧ report.IsOf fault ∧
          (ofFault fault).map toTool = .ok tool ∧ (ofFault fault).map toWeb = .ok web ∧
          Agree tool web report) := by
  by_cases hwordless : ∃ reason, fault.IsWordless reason
  · obtain ⟨reason, kind, rfl⟩ := hwordless
    exact Or.inr (Or.inl ⟨reason, ⟨kind, rfl⟩, rfl⟩)
  · have hworded := not_exists.mp hwordless
    rw [ofFault_eq hworded]
    cases hhint : recoveryHint fault.code fault.reason? with
    | error escaped =>
        obtain ⟨hcode, reason, hreason, hshape, rfl⟩ := recoveryHint_eq_error_iff.mp hhint
        exact Or.inl ⟨reason, Fault.hasUnhashableReason_iff.mpr ⟨hcode, hreason, hshape⟩, rfl⟩
    | ok hint =>
        refine Or.inr (Or.inr ⟨fun reason hreason => ?_, hworded, _, _, _, rfl,
          isOf_of_recoveryHint hhint, rfl, rfl, agree _⟩)
        obtain ⟨hcode, hfound, hshape⟩ := Fault.hasUnhashableReason_iff.mp hreason
        have herror := recoveryHint_eq_error_iff.mpr ⟨hcode, reason, hfound, hshape, rfl⟩
        rw [hhint] at herror
        cases herror

/-- A malformed expression whose reason is a list has no report, and neither has a failure whose
message would have too many digits. -/
theorem ofFault_unhashable :
    ofFault (.problem (.general "MALFORMED_EXPRESSION" "bad" [("reason", .arr [])])) =
        .error (.internal "TypeError" "unhashable type: 'list'") ∧
      ofFault (.wordless "ValueError" (Obstacle.tooLong.toFault Json.displaying)) =
        .error (Obstacle.tooLong.toFault Json.displaying) :=
  ⟨rfl, rfl⟩

end Report

end Calculator
