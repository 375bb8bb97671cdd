import Calculator.Proofs.Expression.Refusal
import Calculator.Proofs.Json.Characters
import Calculator.Proofs.Json.Obstacle
import Calculator.Report
import Calculator.Startup.Launch

/-!
# Reports of refusals

The two servers write one report of a failure in two shapes. A problem can be reported if there is a
hint for it and if its details can be written as strict JSON. Every refusal is such a problem,
unless the length limit is overridden by what JSON cannot write as a number: the texts, positions
and counts that a refusal names can be written, and so can the limit.

A problem with the settings quotes the value of a variable. If there are lone surrogates in it, the
tool server escapes them, but the web server cannot encode its report.

## Main definitions

* `Service.failureObject`: the object that tells of a failure, as a server writes it.
* `Json.IsUnhashable`: a value by which nothing can be looked up.
* `Problem.IsReportable`: a server can write a report of the problem.
* `Problem.IsTorn`: the problem quotes lone surrogates.
* `Report.Tells`: a report tells what there is to know of a problem.
* `Settings.LimitIsNumber`: the length limit is not overridden by what JSON cannot write as a
  number.

## Main results

* `recoveryHint_eq_error_iff`, `Report.ofProblem_eq`: when there is no hint, and what the report of
  a problem is made of.
* `Problem.IsReportable.exists_report`: the report, and that it can be written.
* `Settings.limitIsNumber_of_environment`: an environment overrides nothing.
* `Settings.LimitIsNumber.isWritable_limit`, `Settings.LimitIsNumber.error_cases`: the limit that
  the settings give, and why they may give none.
* `Refusal.exists_problem`: refusals are reportable problems with an expression or with the
  settings.
* `Settings.LimitIsNumber.complaint?_eq_none_iff`: when the web server can encode a report of a
  limit that is not given.
-/

namespace Calculator

/-! ### Objects that tell of failures -/

namespace Service

/-- The object that tells of a failure, as a server writes it. -/
def failureObject (service : Service) (code message : String) (details : Json) (hint : String) :
    Json :=
  match service with
  | .web =>
    .obj [("status", .str "error"), ("error", .obj [("code", .str code), ("message", .str message),
      ("details", details), ("recovery", .str hint)])]
  | .tools =>
    .obj [("status", .str "error"), ("error_code", .str code), ("message", .str message),
      ("details", details), ("recovery_strategy", .str hint)]

/-- The report as a server sends it. -/
def shape : Service → Report → Json
  | .web => Report.toWeb
  | .tools => Report.toTool

/-- A server sends the object that tells of the failure. -/
theorem shape_eq (service : Service) (report : Report) :
    service.shape report =
      service.failureObject report.code report.message report.detailsJson report.hint := by
  cases service <;> rfl

/-- The layout of what a server writes. -/
def layout : Service → Json.Layout
  | .web => .compact
  | .tools => .spaced

/-- How deep lists and objects may be nested in the details that a server writes. -/
def detailsRoom : Service → Nat
  | .web => Json.maxDepth - 2
  | .tools => Json.maxDepth - 1

/-- Only the details can be an obstacle to a server that tells of a failure. -/
theorem obstacle?_failureObject (service : Service) (code message : String) (details : Json)
    (hint : String) :
    (service.failureObject code message details hint).obstacle? true Json.maxDepth =
      details.obstacle? true service.detailsRoom := by
  cases service <;> simp [failureObject, detailsRoom, Json.maxDepth]

end Service

/-! ### Hints -/

/-- A value by which nothing can be looked up. -/
def Json.IsUnhashable (value : Json) : Prop :=
  (∃ items, value = .arr items) ∨ ∃ members, value = .obj members

/-- **A hint is not found** only if a malformed expression has a list or an object for its
reason. -/
theorem recoveryHint_eq_error_iff {code : String} {reason : Option Json} {fault : Fault} :
    recoveryHint code reason = .error fault ↔
      code = "MALFORMED_EXPRESSION" ∧ ∃ found, reason = some found ∧ found.IsUnhashable ∧
        fault = .internal "TypeError" ("unhashable type: '" ++ found.typeName ++ "'") := by
  constructor
  · intro h
    unfold recoveryHint at h
    split at h
    · next hcode =>
      refine ⟨hcode, ?_⟩
      split at h
      · simp at h
      · next items => exact ⟨.arr items, rfl, Or.inl ⟨items, rfl⟩, (Except.error.inj h).symm⟩
      · next members => exact ⟨.obj members, rfl, Or.inr ⟨members, rfl⟩, (Except.error.inj h).symm⟩
      · simp at h
    · simp at h
  · rintro ⟨rfl, found, rfl, ⟨items, rfl⟩ | ⟨members, rfl⟩, rfl⟩ <;> rfl

/-! ### Reports of problems -/

/-- The details of a problem as they are written: `null` if there are none. -/
def Problem.detailsJson (problem : Problem) : Json :=
  if problem.details.isEmpty then .null else .obj problem.details

/-- A server can write a report of a problem: there is a hint, and the details are no obstacle. -/
structure Problem.IsReportable (service : Service) (problem : Problem) : Prop where
  /-- The details can be written. -/
  details : problem.detailsJson.obstacle? true service.detailsRoom = none
  /-- There is a hint for the code and, if there is one, the reason. -/
  hint : ∃ hint, recoveryHint problem.code (Table.get? problem.details "reason") = .ok hint

/-- Details that can be written anywhere are no obstacle. -/
theorem Problem.isReportable_of_isWritable {problem : Problem}
    (hdetails : ∀ key value, (key, value) ∈ problem.details → value.IsWritable)
    (hhint : ∃ hint, recoveryHint problem.code (Table.get? problem.details "reason") = .ok hint)
    (service : Service) : problem.IsReportable service := by
  refine ⟨?_, hhint⟩
  rw [detailsJson]
  split
  · rfl
  · cases service <;> exact Json.membersObstacle?_of_isWritable hdetails _

/-- A report tells what there is to know of a problem: details that say nothing are absent. -/
structure Report.Tells (report : Report) (problem : Problem) : Prop where
  /-- The code is that of the problem. -/
  code : report.code = problem.code
  /-- The message is that of the problem. -/
  message : report.message = problem.message
  /-- The details are those of the problem, or `null` if there are none. -/
  details : report.detailsJson = problem.detailsJson
  /-- The hint is the one for the code and, if there is one, the reason. -/
  hint : recoveryHint problem.code (Table.get? problem.details "reason") = .ok report.hint

/-- What a server sends for a report that tells of a problem. -/
theorem Report.Tells.shape_eq {report : Report} {problem : Problem} (h : report.Tells problem)
    (service : Service) :
    service.shape report =
      service.failureObject problem.code problem.message problem.detailsJson report.hint := by
  rw [service.shape_eq, h.code, h.message, h.details]

/-- Details that say nothing are written as `null`. -/
theorem Report.ofOption_detailsOf (details : Fields) :
    Json.ofOption ((Report.detailsOf details).map .obj) =
      if details.isEmpty then .null else .obj details := by
  rw [Report.detailsOf]
  split <;> rfl

/-- The report of a problem is made of what is known of it and of the hint. -/
theorem Report.ofProblem_eq (problem : Problem) :
    ofProblem problem =
      (recoveryHint problem.code (Table.get? problem.details "reason")).map fun hint =>
        ⟨problem.code, problem.message, detailsOf problem.details, hint⟩ := by
  rw [ofProblem]
  cases recoveryHint problem.code (Table.get? problem.details "reason") <;> rfl

/-- A reportable problem has a report, which can be written. -/
theorem Problem.IsReportable.exists_report {service : Service} {problem : Problem}
    (h : problem.IsReportable service) :
    ∃ report, Report.ofFault (.problem problem) = .ok report ∧ report.Tells problem ∧
      (service.shape report).obstacle? true Json.maxDepth = none := by
  obtain ⟨hint, hhint⟩ := h.hint
  have hdetails := Report.ofOption_detailsOf problem.details
  refine ⟨⟨problem.code, problem.message, Report.detailsOf problem.details, hint⟩, ?_,
    ⟨rfl, rfl, hdetails, hhint⟩, ?_⟩
  · rw [Report.ofFault, Report.ofProblem_eq, hhint]
    rfl
  · rw [Service.shape_eq, Service.obstacle?_failureObject, Report.detailsJson, hdetails]
    exact h.details

/-! ### Reports of other failures -/

/-- The issues of a request can be written. -/
theorem Report.itemsObstacle?_issues (issues : List Issue) (room : Nat) :
    Json.itemsObstacle? true (room + 2) (issues.map Report.ofIssue) = none := by
  induction issues with
  | nil => rfl
  | cons issue rest ih =>
      simp [Report.ofIssue, Json.texts, Json.itemsObstacle?_texts, ih]

/-- The report of data that does not fit can be written. -/
theorem Report.exists_invalidRequest (service : Service) (issues : List Issue) :
    ∃ report, Report.ofFault (.invalidRequest issues) = .ok report ∧
      report.code = "PYDANTIC_VALIDATION_ERROR" ∧
      (service.shape report).obstacle? true Json.maxDepth = none := by
  refine ⟨_, rfl, rfl, ?_⟩
  rw [Service.shape_eq, Service.obstacle?_failureObject]
  cases service <;>
    simp [Report.detailsJson, Json.ofOption, Service.detailsRoom, Json.maxDepth,
      Report.itemsObstacle?_issues]

/-! ### Status -/

/-- A problem with an expression is the caller's. -/
theorem Problem.status_of_refines {problem : Problem}
    (h : problem.kind.refines .expression = true) : (Fault.problem problem).status = 400 := by
  rw [Fault.status]
  cases hkind : problem.kind <;> rw [hkind] at h <;> first | rfl | cases h

/-- A problem with the settings is the server's. -/
theorem Problem.status_of_configuration {problem : Problem}
    (h : problem.kind = .configuration) : (Fault.problem problem).status = 500 := by
  rw [Fault.status, h]
  rfl

/-! ### Limits -/

/-- What was read as a limit is the limit as it was given. -/
theorem Limit.toJson_of_ofJson? {value : Json} {limit : Limit}
    (h : Limit.ofJson? value = some limit) :
    limit.toJson = value := by
  cases value with
  | int n | bool b | float x =>
      obtain rfl := Option.some.inj h
      rfl
  | null | str text | arr items | obj members => simp [Limit.ofJson?] at h

namespace Settings

variable {settings : Settings}

/-- If the length limit is overridden, it is by a truth value or a number that JSON can write. -/
def LimitIsNumber (settings : Settings) : Prop :=
  ∀ value, settings.overrides.bind (Table.get? · Setting.maxExpressionLength.key) = some value →
    value.IsWritable ∧ ∃ limit, Limit.ofJson? value = some limit

/-- An environment overrides nothing. -/
theorem limitIsNumber_of_environment (environment : Table Variable) :
    LimitIsNumber { environment } := by
  intro value hvalue
  simp at hvalue

/-- The limit in an environment is written as an integer, or it is not given. -/
private theorem getUnlessOverridden_cases (settings : Settings) :
    (∃ n : Int, settings.getUnlessOverridden .maxExpressionLength = .ok (.int n) ∧
        (Json.int n).IsWritable) ∨
      ∃ name value, settings.getUnlessOverridden .maxExpressionLength =
        .error (.notInteger name value) := by
  have hinteger : Setting.maxExpressionLength.isInteger = true := rfl
  rw [getUnlessOverridden]
  simp only [hinteger, if_true]
  split
  · exact Or.inl ⟨10000, rfl, fun _ => rfl⟩
  · next written _ =>
    split
    · next n hn => exact Or.inl ⟨n, rfl, Json.isWritable_of_integer? hn⟩
    · exact Or.inr ⟨_, written, rfl⟩

namespace LimitIsNumber

variable (h : settings.LimitIsNumber)

include h

/-- The limit is given as a number that JSON can write, or it is not given. -/
private theorem get_cases :
    (∃ limit, settings.get .maxExpressionLength = .ok limit.toJson ∧ limit.toJson.IsWritable ∧
        Limit.ofJson? limit.toJson = some limit) ∨
      ∃ name value, settings.get .maxExpressionLength = .error (.notInteger name value) := by
  rw [get]
  cases hoverride : settings.overrides.bind (Table.get? · Setting.maxExpressionLength.key) with
  | some value =>
      obtain ⟨hwritable, limit, hlimit⟩ := h value hoverride
      have hjson := Limit.toJson_of_ofJson? hlimit
      subst hjson
      exact Or.inl ⟨limit, rfl, hwritable, hlimit⟩
  | none =>
      rcases getUnlessOverridden_cases settings with ⟨n, hn, hwritable⟩ | ⟨name, value, hvalue⟩
      · exact Or.inl ⟨.whole n, hn, hwritable, rfl⟩
      · exact Or.inr ⟨name, value, hvalue⟩

/-- JSON can write the limit. -/
theorem isWritable_limit {limit : Limit} (hlimit : settings.lengthLimit = .ok limit) :
    limit.toJson.IsWritable := by
  rw [lengthLimit] at hlimit
  rcases h.get_cases with ⟨given, hgiven, hwritable, hread⟩ | ⟨name, value, hvalue⟩
  · simp only [hgiven, hread] at hlimit
    split at hlimit
    · simp at hlimit
    · obtain rfl := Except.ok.inj hlimit
      exact hwritable
  · simp [hvalue] at hlimit

/-- If there is no limit, a variable is no integer, or the limit is not positive. -/
theorem error_cases {error : SettingsError} (herror : settings.lengthLimit = .error error) :
    (∃ name value, error = .notInteger name value) ∨
      ∃ limit, error = .notPositive limit ∧ limit.toJson.IsWritable := by
  rw [lengthLimit] at herror
  rcases h.get_cases with ⟨given, hgiven, hwritable, hread⟩ | ⟨name, value, hvalue⟩
  · simp only [hgiven, hread] at herror
    split at herror
    · exact Or.inr ⟨given, (Except.error.inj herror).symm, hwritable⟩
    · simp at herror
  · rw [hvalue] at herror
    exact Or.inl ⟨name, value, (Except.error.inj herror).symm⟩

/-- A length limit that is not given is a problem with the settings. -/
theorem toFault_eq {error : SettingsError} (herror : settings.lengthLimit = .error error) :
    error.toFault = .problem error.toProblem := by
  rcases h.error_cases herror with ⟨name, value, rfl⟩ | ⟨limit, rfl, -⟩ <;> rfl

/-- A length limit that is not given can be reported. -/
theorem isReportable {error : SettingsError} (herror : settings.lengthLimit = .error error)
    (service : Service) : error.toProblem.IsReportable service := by
  refine Problem.isReportable_of_isWritable ?_ ⟨_, rfl⟩ service
  rcases h.error_cases herror with ⟨name, value, rfl⟩ | ⟨limit, rfl, hwritable⟩
  · intro key detail hmem
    simp only [SettingsError.toProblem, Problem.configuration, SettingsError.details,
      List.mem_cons, Prod.mk.injEq, List.not_mem_nil, or_false] at hmem
    rcases hmem with ⟨-, rfl⟩ | ⟨-, rfl⟩ <;> exact Json.isWritable_str _
  · intro key detail hmem
    obtain ⟨-, rfl⟩ := Prod.mk.inj (List.mem_singleton.mp hmem)
    exact hwritable

end LimitIsNumber

end Settings

/-! ### Lone surrogates in settings -/

/-- A problem with the settings quotes lone surrogates. -/
def Problem.IsTorn (problem : Problem) : Prop :=
  problem.kind = .configuration ∧ ∃ block, problem.standIns = some block ∧
    ∃ c ∈ problem.message.toList, block.contains c = true

/-- Beyond ASCII, the object that tells of a failure has the characters of what it tells. -/
private theorem mem_characters_iff {c : Char} (hc : 0x7F < c.val.toNat) (code message : String)
    (details : Json) (hint : String) :
    c ∈ (Service.web.failureObject code message details hint).characters ↔
      c ∈ code.toList ∨ c ∈ message.toList ∨ c ∈ details.characters ∨ c ∈ hint.toList := by
  have hstatus : c ∉ "status".toList := Json.not_mem_of_ascii (by decide) hc
  have herror : c ∉ "error".toList := Json.not_mem_of_ascii (by decide) hc
  have hcode : c ∉ "code".toList := Json.not_mem_of_ascii (by decide) hc
  have hmessage : c ∉ "message".toList := Json.not_mem_of_ascii (by decide) hc
  have hdetails : c ∉ "details".toList := Json.not_mem_of_ascii (by decide) hc
  have hrecovery : c ∉ "recovery".toList := Json.not_mem_of_ascii (by decide) hc
  simp only [Service.failureObject, Json.characters, Json.memberCharacters, List.mem_append,
    hstatus, herror, hcode, hmessage, hdetails, hrecovery, List.not_mem_nil, false_or, or_false]

/-- Beyond ASCII, the details of a value that is no integer have characters of the message only. -/
private theorem mem_message_of_mem_details {c : Char} (hc : 0x7F < c.val.toNat) {name : String}
    {value : Variable}
    (h : c ∈ (Json.obj (SettingsError.notInteger name value).details).characters) :
    c ∈ (SettingsError.notInteger name value).message.toList := by
  have hvariable : c ∉ "variable".toList := Json.not_mem_of_ascii (by decide) hc
  have hvalue : c ∉ "value".toList := Json.not_mem_of_ascii (by decide) hc
  simp only [SettingsError.details, Json.characters, Json.memberCharacters, List.mem_append,
    hvariable, hvalue, List.not_mem_nil, false_or, or_false] at h
  have hmessage : (SettingsError.notInteger name value).message =
      name ++ " must be an integer, got '" ++ value.text ++ "'" := rfl
  simp only [hmessage, String.toList_append, List.mem_append]
  rcases h with hname | htext
  · exact Or.inl (Or.inl (Or.inl hname))
  · exact Or.inl (Or.inr htext)

/-- Of all that the web server tells of a value that is no integer, only the message and what it
quotes can be beyond ASCII. -/
private theorem mem_characters_toWeb_iff {c : Char} (hc : 0x7F < c.val.toNat) {name : String}
    {value : Variable} {report : Report}
    (h : report.Tells (SettingsError.notInteger name value).toProblem) :
    c ∈ report.toWeb.characters ↔ c ∈ (SettingsError.notInteger name value).message.toList := by
  have hcode : c ∉ "CONFIGURATION_ERROR".toList := Json.not_mem_of_ascii (by decide) hc
  have hhint : report.hint = hintOfCode "CONFIGURATION_ERROR" := (Except.ok.inj h.hint).symm
  have hweb : report.toWeb = Service.web.failureObject report.code report.message
      report.detailsJson report.hint := Service.web.shape_eq report
  rw [hweb, mem_characters_iff hc, h.code, h.message, h.details, hhint]
  constructor
  · rintro (hmem | hmem | hmem | hmem)
    · exact absurd hmem hcode
    · exact hmem
    · exact mem_message_of_mem_details hc hmem
    · exact absurd hmem (Json.not_mem_of_ascii (by decide) hc)
  · exact fun hmem => Or.inr (Or.inl hmem)

/-- **When the web server can encode the report of a limit that is not given**: it must not quote
lone surrogates. -/
theorem Settings.LimitIsNumber.complaint?_eq_none_iff {settings : Settings}
    (h : settings.LimitIsNumber) {error : SettingsError}
    (herror : settings.lengthLimit = .error error) {report : Report}
    (hreport : report.Tells error.toProblem)
    (hwritten : report.toWeb.obstacle? true Json.maxDepth = none) :
    error.toProblem.standIns.bind (·.complaint? (report.toWeb.render .compact)) = none ↔
      ¬ error.toProblem.IsTorn := by
  rcases h.error_cases herror with ⟨name, ⟨text, _ | block⟩, rfl⟩ | ⟨limit, rfl, -⟩
  · simp [SettingsError.standIns, SettingsError.toProblem, Problem.IsTorn]
  · have hcharacters (c : Char) (hc : block.contains c = true) :=
      mem_characters_toWeb_iff (Text.Surrogate.Block.not_ascii_of_contains hc) hreport
    rw [SettingsError.toProblem, SettingsError.standIns, Option.bind_some,
      Json.complaint?_render_eq_none_iff Json.Layout.leavesCharacters_compact hwritten]
    constructor
    · rintro hnone ⟨-, found, hfound, c, hmem, hcontains⟩
      obtain rfl := Option.some.inj hfound
      have hplain := hnone c ((hcharacters c hcontains).mpr hmem)
      simp [hcontains] at hplain
    · intro hwhole c hmem
      by_contra hcontains
      have hstandIn : block.contains c = true := by simpa using hcontains
      exact hwhole ⟨rfl, block, rfl, c, (hcharacters c hstandIn).mp hmem, hstandIn⟩
  · simp [SettingsError.standIns, SettingsError.toProblem, Problem.IsTorn]

/-- The value of an environment variable that is the byte `FF`, which belongs to no character. -/
def Variable.undecodable : Variable :=
  let block : Text.Surrogate.Block := ⟨0xF0000, Nat.le_refl _⟩
  ⟨String.singleton (block.standIn 0xDCFF), some block⟩

/-- A problem with the settings that quotes the byte `FF` quotes a lone surrogate. -/
theorem Variable.isTorn_undecodable (name : String) :
    (SettingsError.notInteger name undecodable).toProblem.IsTorn := by
  have hmessage : (SettingsError.notInteger name undecodable).message =
      name ++ " must be an integer, got '" ++ undecodable.text ++ "'" := rfl
  let block : Text.Surrogate.Block := ⟨0xF0000, Nat.le_refl _⟩
  have htext : undecodable.text.toList = [block.standIn 0xDCFF] := String.toList_singleton _
  refine ⟨rfl, block, rfl, block.standIn 0xDCFF, ?_, by decide⟩
  have hmem :
      block.standIn 0xDCFF ∈ (SettingsError.notInteger name undecodable).message.toList := by
    rw [hmessage, String.toList_append, String.toList_append, htext]
    exact List.mem_append_left _ (List.mem_append_right _ List.mem_cons_self)
  exact hmem

/-- An environment in which the byte `FF` is the length limit. -/
def Settings.undecodable : Settings :=
  { environment := [("RPNCALC_MAX_EXPRESSION_LENGTH", .undecodable)] }

/-- The byte `FF` is no length limit. -/
theorem Settings.lengthLimit_undecodable :
    undecodable.lengthLimit =
      .error (.notInteger "RPNCALC_MAX_EXPRESSION_LENGTH" .undecodable) := rfl

/-! ### Refusals -/

/-- A problem that is one of expressions, or one of the settings, and reportable, unless the web
server cannot encode lone surrogates in it. -/
structure Problem.IsRefusal (problem : Problem) : Prop where
  /-- The class. -/
  kind : problem.kind.refines .expression = true ∨ problem.kind = .configuration
  /-- Both servers can write a report. -/
  reportable : ∀ service, problem.IsReportable service
  /-- What stands for lone surrogates in the problem does so in the report. -/
  standIns : (Fault.problem problem).standIns none = problem.standIns
  /-- The web server can encode a report exactly if the problem quotes no lone surrogates. -/
  encodes : ∀ report : Report, report.Tells problem →
    report.toWeb.obstacle? true Json.maxDepth = none →
      (problem.standIns.bind (·.complaint? (report.toWeb.render .compact)) = none ↔
        ¬ problem.IsTorn)

/-- A problem with an expression quotes no settings. -/
theorem ExpressionError.isRefusal_of_isReportable {error : ExpressionError}
    (h : ∀ service, error.toProblem.IsReportable service) : error.toProblem.IsRefusal := by
  have hkind : error.toProblem.kind.refines .expression = true := by cases error <;> rfl
  have hnone : error.toProblem.standIns = none := by cases error <;> rfl
  have hother : error.toProblem.kind ≠ .configuration := by cases error <;> exact nofun
  refine ⟨Or.inl hkind, h, ?_, fun report _ _ => ?_⟩
  · rw [Fault.standIns, if_neg hother, hnone]
  · simp [hnone, Problem.IsTorn]

/-- A length limit that is not given is a problem with the settings that can be reported. -/
theorem Settings.LimitIsNumber.isRefusal {settings : Settings} (h : settings.LimitIsNumber)
    {error : SettingsError} (herror : settings.lengthLimit = .error error) :
    error.toProblem.IsRefusal where
  kind := Or.inr rfl
  reportable := h.isReportable herror
  standIns := rfl
  encodes _ := h.complaint?_eq_none_iff herror

/-- What a defect tells can be written if JSON can write its number. -/
private theorem isWritable_of_mem_details {defect : Defect} (h : defect.number ≤ Text.maxLength)
    {key : String} {value : Json} (hmem : (key, value) ∈ defect.details) : value.IsWritable := by
  -- each defect names its number, and only one of them a text besides
  cases defect <;>
    simp only [Defect.details, List.mem_cons, Prod.mk.injEq, List.not_mem_nil, or_false] at hmem
  case missingOperand operator position =>
    rcases hmem with ⟨-, rfl⟩ | ⟨-, rfl⟩
    · exact Json.isWritable_nat h
    · exact Json.isWritable_str _
  all_goals
    obtain ⟨-, rfl⟩ := hmem
    exact Json.isWritable_nat h

/-- Wrong tokens are a problem with an expression that can be reported. -/
private theorem isReportable_of_isOfTokens {error : ExpressionError}
    (h : error.IsOfTokens Text.maxLength) (service : Service) :
    error.toProblem.IsReportable service := by
  cases error with
  | invalidToken text position =>
      refine Problem.isReportable_of_isWritable ?_ ⟨_, rfl⟩ service
      intro key value hmem
      cases position with
      | none =>
          obtain ⟨-, rfl⟩ := Prod.mk.inj (List.mem_singleton.mp hmem)
          exact Json.isWritable_str _
      | some p =>
          have hp : p ≤ Text.maxLength := h p rfl
          have hmembers : (key, value) ∈ [("token", Json.str text), ("position", .nat p)] := hmem
          simp only [List.mem_cons, Prod.mk.injEq, List.not_mem_nil, or_false] at hmembers
          rcases hmembers with ⟨-, rfl⟩ | ⟨-, rfl⟩
          · exact Json.isWritable_str _
          · exact Json.isWritable_nat hp
  | malformed defect =>
      refine Problem.isReportable_of_isWritable ?_ ?_ service
      · intro key value hmem
        rw [(Defect.isMalformedFor defect).2.2, List.mem_cons] at hmem
        rcases hmem with heq | hmem
        · obtain ⟨-, rfl⟩ := Prod.mk.inj heq
          exact Json.isWritable_str _
        · exact isWritable_of_mem_details h hmem
      · cases defect <;> exact ⟨_, rfl⟩
  | empty =>
      exact Problem.isReportable_of_isWritable
        (fun _ _ hmem => absurd hmem List.not_mem_nil) ⟨_, rfl⟩ service
  | tooLong length limit => exact h.elim

/-- **What is wrong is reportable.** A refusal is a problem with an expression or with the settings,
and both servers can report it, as long as JSON can write the length limit as a number. -/
theorem Refusal.exists_problem {settings : Settings} {text : String} {fault : Fault}
    (h : Refusal settings text fault) (hnumber : settings.LimitIsNumber)
    (hlength : text.length ≤ Text.maxLength) :
    ∃ problem : Problem, fault = .problem problem ∧ problem.IsRefusal := by
  cases h with
  | tokens htokens =>
      exact ⟨_, rfl, ExpressionError.isRefusal_of_isReportable
        (isReportable_of_isOfTokens (htokens.mono hlength))⟩
  | @tooLong limit hlimit =>
      refine ⟨_, rfl, ExpressionError.isRefusal_of_isReportable
        (Problem.isReportable_of_isWritable ?_ ⟨_, rfl⟩)⟩
      intro key value hmem
      have hmembers : (key, value) ∈
          [("length", Json.nat text.length), ("limit", limit.toJson)] := hmem
      simp only [List.mem_cons, Prod.mk.injEq, List.not_mem_nil, or_false] at hmembers
      rcases hmembers with ⟨-, rfl⟩ | ⟨-, rfl⟩
      · exact Json.isWritable_nat hlength
      · exact hnumber.isWritable_limit hlimit
  | unlimited herror => exact ⟨_, hnumber.toFault_eq herror, hnumber.isRefusal herror⟩

end Calculator
