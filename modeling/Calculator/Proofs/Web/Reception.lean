import Calculator.Proofs.Service.Code

/-!
# How a posted body is received

Any bytes may be posted to the endpoints for expressions. There are five ways in which they are
received, and the response shows which: the bytes are no JSON, the JSON is no object that hands over
an expression and nothing else, or it is one, and then the operation answers, rejects the
expression, or lacks the length limit that it needs. In all of them the response is strict JSON.

There is no response if an operation lacks the length limit because it was given by bytes that
belong to no character: the report quotes lone surrogates for them, and cannot be encoded.

Two kinds of bodies are left out here: JSON that is nested too deep, for which there is no response,
and JSON with lone surrogates, which cannot always be sent back.

## Main definitions

* `Request.HandsOver`: a body is an object that hands over an expression and nothing else.
* `Reception`, `Reception.status`: the five ways, and the status of each.
* `Reception.Describes`: when a body is received in one of them, and what the response is then.
* `Operation.Lacks`: an operation needs a length limit for a body, and there is none.

## Main results

* `Body.expression_eq_ok_iff`: which bodies have an expression.
* `Reception.Describes.unique`: the response shows how the body was received.
* `Operation.receives`: **every body is received in exactly one way**, or there is no response.
-/

namespace Calculator

namespace Web

/-! ### Bodies with an expression -/

namespace Body

variable {bytes : List UInt8} {body : Body} {text : String}

/-- What is read from bytes is one of the values that they stand for. -/
private theorem exists_parse_of_read (h : read bytes = .ok body) :
    ∃ lone, parse lone bytes = .ok body.data := by
  rw [read] at h
  cases hplain : parse Text.Surrogate.replacement bytes with
  | error error => simp [hplain, bind, Except.bind] at h
  | ok plain =>
      simp only [hplain, bind, Except.bind] at h
      split at h
      · obtain rfl := Except.ok.inj h
        exact ⟨_, hplain⟩
      · next block _ =>
        cases hdata : parse block.standIn bytes with
        | error error => simp [hdata] at h
        | ok data =>
            simp only [hdata] at h
            split at h
            · obtain rfl := Except.ok.inj h
              exact ⟨_, hdata⟩
            · obtain rfl := Except.ok.inj h
              exact ⟨_, hplain⟩

/-- An object in a body has no key twice. -/
theorem nodup_keys_of_read (h : read bytes = .ok body) {members : Fields}
    (hdata : body.data = .obj members) : (Table.keys members).Nodup := by
  obtain ⟨lone, hparse⟩ := exists_parse_of_read h
  rw [parse, hdata] at hparse
  split at hparse
  · simp at hparse
  · exact Json.nodup_keys_of_read hparse

/-- A body without an expression is refused as one that does not fit. -/
theorem exists_issues_of_expression {fault : Fault} (h : body.expression = .error fault) :
    ∃ issues, fault = .invalidRequest issues := by
  rw [expression] at h
  split at h
  · simp at h
  · exact ⟨_, (Except.error.inj h).symm⟩

/-- Members with an expression and nothing else, each of them once, are a single one. -/
private theorem eq_singleton_of_issues {members : Fields} (hkeys : (Table.keys members).Nodup)
    (hexpression : Table.get? members "expression" = some (.str text))
    (hothers : memberIssues members = []) : members = [("expression", .str text)] := by
  have hall : ∀ key ∈ Table.keys members, key = "expression" := by
    intro key hkey
    by_contra hne
    have hissue : unknownMember key ∈ memberIssues members := by
      refine List.mem_map.mpr ⟨key, List.mem_filter.mpr ⟨hkey, ?_⟩, rfl⟩
      simpa using hne
    rw [hothers] at hissue
    simp at hissue
  cases members with
  | nil => simp [Table.get?] at hexpression
  | cons member rest =>
      obtain ⟨key, value⟩ := member
      obtain ⟨hfresh, -⟩ := List.nodup_cons.mp hkeys
      obtain rfl : key = "expression" := hall key List.mem_cons_self
      obtain rfl : value = .str text := by simpa [Table.get?] using hexpression
      cases rest with
      | nil => rfl
      | cons member' rest' =>
          -- a second member would have the same key
          have hagain : member'.1 = "expression" :=
            hall member'.1 (List.mem_cons_of_mem _ List.mem_cons_self)
          refine absurd ?_ hfresh
          rw [← hagain]
          exact List.mem_cons_self

/-- **Which bodies have an expression**: the objects with this one member, if no lone surrogates are
in the body. -/
theorem expression_eq_ok_iff (h : read bytes = .ok body) (hwhole : body.standIns = none) :
    body.expression = .ok text ↔ body.data = expressionObject text := by
  obtain ⟨data, standIns⟩ := body
  obtain rfl : standIns = none := hwhole
  constructor
  · intro hexpression
    rw [expression] at hexpression
    split at hexpression
    · next hissues hget =>
      obtain rfl := Except.ok.inj hexpression
      cases data with
      | obj members =>
          have hnone : expressionIssues members ++ memberIssues members = [] := hissues
          obtain ⟨-, hothers⟩ := List.append_eq_nil_iff.mp hnone
          rw [expressionObject, eq_singleton_of_issues (nodup_keys_of_read h rfl) hget hothers]
      | null | bool _ | int _ | float _ | str _ | arr _ => simp [Json.get?] at hget
    · simp at hexpression
  · rintro rfl
    exact expression_object text

end Body

/-- A body is an object that hands over an expression and nothing else. -/
def HandsOver (bytes : List UInt8) (text : String) : Prop :=
  Body.read bytes = .ok { data := expressionObject text }

/-- A body hands over one expression. -/
theorem HandsOver.unique {bytes : List UInt8} {text text' : String} (h : HandsOver bytes text)
    (h' : HandsOver bytes text') : text = text' := by
  have hread := Except.ok.inj (h.symm.trans h')
  have hdata : expressionObject text = expressionObject text' := congrArg Body.data hread
  simpa [expressionObject] using hdata

/-! ### Five ways -/

/-- A response reports a failure with a status and a code. -/
def Response.Reports (response : Response) (status : Nat) (code : String) : Prop :=
  response.status = status ∧ Service.web.Reports code response.body

/-- How a posted body is received. -/
inductive Reception where
  /-- It is no JSON. -/
  | unreadable
  /-- It is JSON, but no object that hands over an expression and nothing else. -/
  | unfit
  /-- It hands over an expression, and the operation answers. -/
  | answered
  /-- It hands over an expression that the operation rejects. -/
  | rejected
  /-- It hands over an expression, and the settings do not give the length limit that is needed. -/
  | misconfigured
  deriving DecidableEq, Repr

namespace Reception

/-- The status of the response. -/
def status : Reception → Nat
  | .unreadable => 422
  | .unfit => 422
  | .answered => 200
  | .rejected => 400
  | .misconfigured => 500

/-- When a body is received in one of the ways, and what the response to it is then. -/
def Describes (operation : Operation) (settings : Settings) (bytes : List UInt8)
    (response : Response) : Reception → Prop
  | .unreadable =>
    Body.read bytes = .error .malformed ∧ response.Reports 422 "VALIDATION_ERROR"
  | .unfit =>
    (∃ body, Body.read bytes = .ok body ∧ ∀ text, body.data ≠ expressionObject text) ∧
      response.Reports 422 "PYDANTIC_VALIDATION_ERROR"
  | .answered =>
    ∃ text result, HandsOver bytes text ∧
      operation.outcome settings text = .ok ⟨operation.kind, result⟩ ∧ response.status = 200 ∧
      response.body = Json.render .compact
        (.obj [("status", .str "ok"), ("kind", .str operation.resultName), ("result", result)])
  | .rejected =>
    ∃ text error, HandsOver bytes text ∧
      operation.outcome settings text = .error (ExpressionError.toFault error) ∧
      response.Reports 400 error.toProblem.code
  | .misconfigured =>
    ∃ text error, HandsOver bytes text ∧ Text.isBlankText text = false ∧
      settings.lengthLimit = .error error ∧ response.Reports 500 "CONFIGURATION_ERROR"

variable {operation : Operation} {settings : Settings} {bytes : List UInt8} {response : Response}
variable {reception reception' : Reception}

/-- The response has the status of the reception. -/
theorem Describes.status_eq (h : reception.Describes operation settings bytes response) :
    response.status = reception.status := by
  cases reception with
  | unreadable => exact h.2.1
  | unfit => exact h.2.1
  | answered =>
      obtain ⟨text, result, -, -, hstatus, -⟩ := h
      exact hstatus
  | rejected =>
      obtain ⟨text, error, -, -, hstatus, -⟩ := h
      exact hstatus
  | misconfigured =>
      obtain ⟨text, error, -, -, -, hstatus, -⟩ := h
      exact hstatus

/-- Only the two receptions of what is no request have the same status. -/
private theorem eq_or_of_status (h : reception.status = reception'.status) :
    reception = reception' ∨ reception = .unreadable ∧ reception' = .unfit ∨
      reception = .unfit ∧ reception' = .unreadable := by
  cases reception <;> cases reception' <;> simp [status] at h ⊢

/-- What is no JSON is not reported as what does not fit. -/
private theorem unreadable_ne_unfit (h : unreadable.Describes operation settings bytes response)
    (h' : unfit.Describes operation settings bytes response) : False := by
  have hplain : Json.IsPlain "VALIDATION_ERROR" := by decide
  have hcode := h.2.2.eq_of_isPlain hplain h'.2.2
  exact absurd hcode (by decide)

/-- **The response shows how the body was received.** -/
theorem Describes.unique (h : reception.Describes operation settings bytes response)
    (h' : reception'.Describes operation settings bytes response) : reception = reception' := by
  have hstatus := h.status_eq.symm.trans h'.status_eq
  rcases eq_or_of_status hstatus with heq | ⟨rfl, rfl⟩ | ⟨rfl, rfl⟩
  · exact heq
  · exact (unreadable_ne_unfit h h').elim
  · exact (unreadable_ne_unfit h' h).elim

end Reception

/-! ### Reports -/

namespace Server

variable (endpoint : Endpoint)

/-- A foreseen failure whose report can be written is answered by it. -/
private theorem exists_faultResponse {fault : Fault} {report : Report}
    (hforeseen : fault.IsForeseen)
    (hstandIns : fault.standIns none = none) (hreport : Report.ofFault fault = .ok report)
    (hwritten : report.toWeb.obstacle? true Json.maxDepth = none) :
    ∃ body, (faultResponse endpoint fault).outcome = .ok (.json fault.status body) ∧
      Json.IsText body ∧ Service.web.Reports report.code body := by
  refine ⟨report.toWeb.render .compact, ?_,
    Json.isText_render Json.Layout.separates_compact hwritten,
    Service.web.reports_render report none⟩
  rw [faultResponse_outcome hforeseen hreport, hstandIns]
  exact jsonResponse_outcome hwritten rfl _

/-- A refusal that quotes no lone surrogates is answered by a report with its code. -/
theorem exists_faultResponse_of_isRefusal {problem : Problem} (h : problem.IsRefusal)
    (hwhole : ¬ problem.IsTorn) :
    ∃ body, (faultResponse endpoint (.problem problem)).outcome =
        .ok (.json (Fault.problem problem).status body) ∧
      Json.IsText body ∧ Service.web.Reports problem.code body := by
  obtain ⟨report, -, htells, hwritten, hsent⟩ := faultResponse_of_isRefusal endpoint h
  refine ⟨_, hsent hwhole, Json.isText_render Json.Layout.separates_compact hwritten, ?_⟩
  rw [← htells.code]
  exact Service.web.reports_render report none

/-- Bytes that are no JSON are answered by a report with the code for it. -/
theorem exists_faultResponse_of_malformed :
    ∃ body, (faultResponse endpoint (Body.unreadable .malformed)).outcome = .ok (.json 422 body) ∧
      Json.IsText body ∧ Service.web.Reports "VALIDATION_ERROR" body := by
  have hreportable : (Problem.validation "Request body must be valid JSON" []).IsReportable .web :=
    ⟨rfl, _, rfl⟩
  obtain ⟨report, hreport, htells, hwritten⟩ := hreportable.exists_report
  have hcode : report.code = "VALIDATION_ERROR" := htells.code
  rw [← hcode]
  exact exists_faultResponse endpoint trivial rfl hreport hwritten

/-- Data that does not fit is answered by a report with the code for it. -/
theorem exists_faultResponse_of_issues (issues : List Issue) :
    ∃ body, (faultResponse endpoint (.invalidRequest issues)).outcome = .ok (.json 422 body) ∧
      Json.IsText body ∧ Service.web.Reports "PYDANTIC_VALIDATION_ERROR" body := by
  obtain ⟨report, hreport, hcode, hwritten⟩ := Report.exists_invalidRequest .web issues
  rw [← hcode]
  exact exists_faultResponse endpoint trivial rfl hreport hwritten

end Server

end Web

/-! ### Every body -/

/-- With a length limit, only what is wrong with an expression is refused. -/
theorem Refusal.exists_error {settings : Settings} {text : String} {limit : Limit} {fault : Fault}
    (h : Refusal settings text fault) (hlimit : settings.lengthLimit = .ok limit) :
    ∃ error : ExpressionError, fault = error.toFault := by
  cases h with
  | unlimited herror => simp [hlimit] at herror
  | tooLong _ => exact ⟨_, rfl⟩
  | tokens _ => exact ⟨_, rfl⟩

/-- What is wrong with an expression quotes no settings. -/
theorem ExpressionError.not_isTorn (error : ExpressionError) : ¬ error.toProblem.IsTorn := by
  have hkind : error.toProblem.kind ≠ .configuration := by cases error <;> exact nofun
  exact fun htorn => hkind htorn.1

/-- What is wrong with an expression is the caller's fault. -/
theorem ExpressionError.status_toFault (error : ExpressionError) : error.toFault.status = 400 := by
  have hkind : error.toProblem.kind.refines .expression = true := by cases error <;> rfl
  exact Problem.status_of_refines hkind

/-- What is wrong with the settings is the server's fault. -/
theorem SettingsError.status_toFault (error : SettingsError) : error.toFault.status = 500 := by
  cases error <;> rfl

/-- What is wrong with the settings is not what is wrong with an expression. -/
theorem SettingsError.toFault_ne (error : SettingsError) (rejection : ExpressionError) :
    error.toFault ≠ rejection.toFault := by
  intro heq
  have hstatus := congrArg Fault.status heq
  rw [error.status_toFault, rejection.status_toFault] at hstatus
  exact absurd hstatus (by decide)

namespace Operation

open Web

variable {operation : Operation} {settings : Settings} {request : Request} {text : String}

/-- A request posted to an endpoint for expressions is answered by the endpoint, with one header
more for a request from another origin. -/
theorem respond_outcome (settings : Settings) (h : request.IsPostTo operation.endpoint) :
    ∃ further, ((⟨Engine.make.value⟩ : Server).respond settings request).outcome =
      (Server.run operation.endpoint request
        (operation.ofEngine Engine.make.value settings ·)).outcome.map fun response =>
          { response with headers := response.headers ++ further } := by
  rw [← answer_endpoint]
  exact Server.respond_outcome _ settings h operation.takesPost_endpoint

/-- The response of an endpoint to a body that was read. -/
theorem run_outcome_of_read {body : Body} (h : Body.read request.body = .ok body) :
    (Server.run operation.endpoint request
        (operation.ofEngine Engine.make.value settings ·)).outcome =
      (Server.responseTo operation.endpoint
        (body.expression.bind (operation.outcome settings ·)) body.standIns).outcome := by
  rw [Server.run_outcome_of_read h]
  simp only [ofEngine_outcome]

/-- With the limit that it needs, an operation fails for what is wrong with the expression only. -/
theorem exists_error_of_outcome {fault : Fault} (h : operation.outcome settings text = .error fault)
    (hneeded : Text.isBlankText text = false → ∃ limit, settings.lengthLimit = .ok limit) :
    ∃ error : ExpressionError, fault = error.toFault := by
  cases hblank : Text.isBlankText text with
  | true =>
      have hdefault : Settings.lengthLimit {} = .ok (.whole 10000) := rfl
      rw [outcome_of_isBlankText settings hblank] at h
      exact (refusal_of_outcome h).exists_error hdefault
  | false =>
      obtain ⟨limit, hlimit⟩ := hneeded hblank
      exact (refusal_of_outcome h).exists_error hlimit

/-- An operation needs a length limit for the expression in a body, and there is none. -/
def Lacks (settings : Settings) (bytes : List UInt8) (error : SettingsError) : Prop :=
  settings.lengthLimit = .error error ∧
    ∃ text, HandsOver bytes text ∧ Text.isBlankText text = false

/-- An endpoint for expressions responds to a request in strict JSON, and the body is received in a
given way. -/
def Receives (operation : Operation) (settings : Settings) (request : Request)
    (reception : Reception) : Prop :=
  ∃ status body, (Server.run operation.endpoint request
      (operation.ofEngine Engine.make.value settings ·)).outcome = .ok (.json status body) ∧
    Json.IsText body ∧
    ∀ headers, reception.Describes operation settings request.body ⟨status, headers, body⟩

/-- Bytes that are no JSON are received as such. -/
theorem receives_unreadable (h : Body.read request.body = .error .malformed) :
    operation.Receives settings request .unreadable := by
  obtain ⟨body, hresponse, htext, hreports⟩ :=
    Server.exists_faultResponse_of_malformed operation.endpoint
  refine ⟨422, body, ?_, htext, fun headers => ⟨h, rfl, hreports⟩⟩
  rw [Server.run_outcome_of_unreadable h]
  exact hresponse

/-- JSON that does not hand over an expression and nothing else is received as such. -/
theorem receives_unfit {body : Body} (h : Body.read request.body = .ok body)
    (hwhole : body.standIns = none) (hunfit : ∀ text, body.data ≠ expressionObject text) :
    operation.Receives settings request .unfit := by
  cases hexpression : body.expression with
  | ok text => exact absurd ((Body.expression_eq_ok_iff h hwhole).mp hexpression) (hunfit text)
  | error fault =>
      obtain ⟨issues, rfl⟩ := Body.exists_issues_of_expression hexpression
      obtain ⟨written, hresponse, htext, hreports⟩ :=
        Server.exists_faultResponse_of_issues operation.endpoint issues
      refine ⟨422, written, ?_, htext, fun headers => ⟨⟨body, h, hunfit⟩, rfl, hreports⟩⟩
      rw [run_outcome_of_read h, hexpression, hwhole]
      exact hresponse

/-- The response to an expression that was handed over is that to the outcome of the operation. -/
private theorem run_outcome_of_handsOver (h : HandsOver request.body text) :
    (Server.run operation.endpoint request
        (operation.ofEngine Engine.make.value settings ·)).outcome =
      (Server.responseTo operation.endpoint (operation.outcome settings text)).outcome := by
  rw [run_outcome_of_read h, Body.expression_object]
  rfl

/-- An expression is answered. -/
theorem receives_answered {answer : Answer} (h : HandsOver request.body text)
    (hanswer : operation.outcome settings text = .ok answer) :
    operation.Receives settings request .answered := by
  obtain ⟨result, rfl, hwritable⟩ := exists_result hanswer
  have hname : operation.kind.name = operation.resultName := by cases operation <;> rfl
  have hwritten : (Json.obj [("status", .str "ok"), ("kind", .str operation.resultName),
      ("result", result)]).obstacle? true Json.maxDepth = none := by
    simp [Json.maxDepth, hwritable _]
  refine ⟨200, _, ?_, Json.isText_render Json.Layout.separates_compact hwritten,
    fun headers => ⟨text, result, h, hanswer, rfl, rfl⟩⟩
  rw [run_outcome_of_handsOver h, hanswer]
  simp only [Server.responseTo, Answer.members, hname]
  exact Server.jsonResponse_outcome hwritten rfl 200

section

variable (hnumber : settings.LimitIsNumber)

include hnumber

/-- An expression is rejected. -/
theorem receives_rejected (hlength : text.length ≤ Text.maxLength) {error : ExpressionError}
    (h : HandsOver request.body text)
    (herror : operation.outcome settings text = .error error.toFault) :
    operation.Receives settings request .rejected := by
  obtain ⟨problem, hproblem, hrefusal⟩ := (refusal_of_outcome herror).exists_problem hnumber hlength
  obtain rfl := Fault.problem.inj hproblem
  obtain ⟨body, hresponse, htext, hreports⟩ :=
    Server.exists_faultResponse_of_isRefusal operation.endpoint hrefusal error.not_isTorn
  have hstatus : (Fault.problem error.toProblem).status = 400 := error.status_toFault
  rw [hstatus] at hresponse
  refine ⟨400, body, ?_, htext, fun headers => ⟨text, error, h, herror, rfl, hreports⟩⟩
  rw [run_outcome_of_handsOver h, herror]
  exact hresponse

/-- The response to an expression that needs a length limit, if there is none. -/
private theorem run_outcome_of_unlimited {error : SettingsError} (h : HandsOver request.body text)
    (hblank : Text.isBlankText text = false) (herror : settings.lengthLimit = .error error) :
    (Server.run operation.endpoint request
        (operation.ofEngine Engine.make.value settings ·)).outcome =
      (Server.faultResponse operation.endpoint (.problem error.toProblem)).outcome := by
  rw [run_outcome_of_handsOver h, outcome_of_unlimited hblank herror, hnumber.toFault_eq herror]
  rfl

/-- An expression that needs a length limit is refused without one, if the report can be encoded. -/
theorem receives_misconfigured {error : SettingsError} (h : HandsOver request.body text)
    (hblank : Text.isBlankText text = false) (herror : settings.lengthLimit = .error error)
    (hwhole : ¬ error.toProblem.IsTorn) : operation.Receives settings request .misconfigured := by
  obtain ⟨body, hresponse, htext, hreports⟩ := Server.exists_faultResponse_of_isRefusal
    operation.endpoint (hnumber.isRefusal herror) hwhole
  refine ⟨500, body, ?_, htext, fun headers => ⟨text, error, h, hblank, herror, rfl, hreports⟩⟩
  rw [run_outcome_of_unlimited hnumber h hblank herror]
  exact hresponse

/-- There is no response if the report cannot be encoded. -/
theorem run_outcome_of_isTorn (operation : Operation) {error : SettingsError}
    (h : HandsOver request.body text) (hblank : Text.isBlankText text = false)
    (herror : settings.lengthLimit = .error error) (htorn : error.toProblem.IsTorn) :
    ∃ complaint, (Server.run operation.endpoint request
        (operation.ofEngine Engine.make.value settings ·)).outcome =
      .error (.internal "UnicodeEncodeError" complaint) := by
  rw [run_outcome_of_unlimited hnumber h hblank herror]
  exact Server.faultResponse_of_isTorn operation.endpoint (hnumber.isRefusal herror) htorn none

/-- An expression that was handed over is received in one of three ways. -/
theorem exists_receives_of_handsOver (operation : Operation)
    (hlength : text.length ≤ Text.maxLength) (h : HandsOver request.body text)
    (hwhole : ∀ error, Lacks settings request.body error → ¬ error.toProblem.IsTorn) :
    ∃ reception, operation.Receives settings request reception := by
  -- a blank text never meets the limit, so that its absence matters for the other texts only
  by_cases hneeded : Text.isBlankText text = false → ∃ limit, settings.lengthLimit = .ok limit
  · cases houtcome : operation.outcome settings text with
    | ok answer => exact ⟨_, receives_answered h houtcome⟩
    | error fault =>
        obtain ⟨error, rfl⟩ := exists_error_of_outcome houtcome hneeded
        exact ⟨_, receives_rejected hnumber hlength h houtcome⟩
  · obtain ⟨hblank, hnone⟩ := Classical.not_imp.mp hneeded
    cases hlimit : settings.lengthLimit with
    | ok limit => exact (hnone ⟨limit, hlimit⟩).elim
    | error error =>
        have hencoded := hwhole error ⟨hlimit, text, h, hblank⟩
        exact ⟨_, receives_misconfigured hnumber h hblank hlimit hencoded⟩

end

/-- A body that is neither nested too deep nor has lone surrogates is received. -/
theorem exists_receives (operation : Operation) (hnumber : settings.LimitIsNumber)
    (hlength : ∀ text, HandsOver request.body text → text.length ≤ Text.maxLength)
    (hdepth : ∀ list, Body.read request.body ≠ .error (.tooDeep list))
    (hwhole : ∀ body, Body.read request.body = .ok body → body.standIns = none)
    (hencoded : ∀ error, Lacks settings request.body error → ¬ error.toProblem.IsTorn) :
    ∃ reception, operation.Receives settings request reception := by
  cases hread : Body.read request.body with
  | error error =>
      cases error with
      | malformed => exact ⟨_, receives_unreadable hread⟩
      | tooDeep list => exact absurd hread (hdepth list)
  | ok body =>
      have hnone := hwhole body hread
      by_cases hunfit : ∀ text, body.data ≠ expressionObject text
      · exact ⟨_, receives_unfit hread hnone hunfit⟩
      · obtain ⟨text, hdata⟩ : ∃ text, body.data = expressionObject text := by
          simpa using hunfit
        have hhandsOver : HandsOver request.body text := by
          rw [HandsOver, hread, ← hdata, ← hnone]
        exact exists_receives_of_handsOver hnumber operation (hlength text hhandsOver) hhandsOver
          hencoded

end Operation

/-! ### The main result -/

namespace Web

variable {operation : Operation} {settings : Settings} {bytes : List UInt8} {response : Response}
variable {reception : Reception}

/-- The status of a misconfiguration is sent exactly if the length limit is needed and not given. -/
theorem Reception.Describes.status_eq_iff
    (h : reception.Describes operation settings bytes response) :
    response.status = 500 ↔ ∃ error, Operation.Lacks settings bytes error := by
  constructor
  · intro hstatus
    rw [h.status_eq] at hstatus
    cases reception with
    | misconfigured =>
        obtain ⟨text, error, hbody, hblank, herror, -⟩ := h
        exact ⟨error, herror, text, hbody, hblank⟩
    | unreadable | unfit | answered | rejected => simp [status] at hstatus
  · rintro ⟨error, herror, text, hbody, hblank⟩
    have houtcome : operation.outcome settings text = .error error.toFault :=
      Operation.outcome_of_unlimited hblank herror
    cases reception with
    | unreadable =>
        obtain ⟨hread, -⟩ := h
        simp [HandsOver, hread] at hbody
    | unfit =>
        obtain ⟨⟨body, hread, hunfit⟩, -⟩ := h
        obtain rfl := Except.ok.inj (hread.symm.trans hbody)
        exact absurd rfl (hunfit text)
    | answered =>
        obtain ⟨text', result, hbody', hanswer, -⟩ := h
        obtain rfl := hbody.unique hbody'
        simp [houtcome] at hanswer
    | rejected =>
        obtain ⟨text', rejection, hbody', hrejected, -⟩ := h
        obtain rfl := hbody.unique hbody'
        rw [houtcome] at hrejected
        exact absurd (Except.error.inj hrejected) (SettingsError.toFault_ne error rejection)
    | misconfigured => exact h.status_eq

end Web

/-- **Every body is received in exactly one way.** Whatever bytes are posted to an endpoint for
expressions, unless they are JSON that is nested too deep or has lone surrogates, the response is
strict JSON and shows which of the five ways it is: no JSON, no object that hands over an expression
and nothing else, or such an object, which is answered, rejected, or refused for want of the length
limit. The last one comes about exactly if the limit is needed and not given. There is one
exception: if the problem with a limit that is needed quotes lone surrogates, there is no response,
but a failure to encode one. -/
theorem Operation.receives (operation : Operation) {settings : Settings}
    (hnumber : settings.LimitIsNumber) {request : Web.Request}
    (hpost : request.IsPostTo operation.endpoint)
    (hlength : ∀ text, Web.HandsOver request.body text → text.length ≤ Text.maxLength)
    (hdepth : ∀ list, Web.Body.read request.body ≠ .error (.tooDeep list))
    (hwhole : ∀ body, Web.Body.read request.body = .ok body → body.standIns = none) :
    let outcome := ((⟨Engine.make.value⟩ : Web.Server).respond settings request).outcome
    ((∀ error, Lacks settings request.body error → ¬ error.toProblem.IsTorn) →
      ∃ response, outcome = .ok response ∧
        ("content-type", "application/json") ∈ response.headers ∧ Json.IsText response.body ∧
        (∃! reception : Web.Reception,
          reception.Describes operation settings request.body response) ∧
        (response.status = 500 ↔ ∃ error, Lacks settings request.body error)) ∧
    ∀ error, Lacks settings request.body error → error.toProblem.IsTorn →
      ∃ complaint, outcome = .error (.internal "UnicodeEncodeError" complaint) := by
  intro outcome
  obtain ⟨further, hrespond⟩ := respond_outcome settings hpost
  refine ⟨fun hencoded => ?_, fun error hlacks htorn => ?_⟩
  · obtain ⟨reception, status, body, hrun, htext, hdescribes⟩ :=
      exists_receives operation hnumber hlength hdepth hwhole hencoded
    rw [hrun] at hrespond
    have hresponse := hdescribes ([("content-type", "application/json")] ++ further)
    exact ⟨_, hrespond, List.mem_append_left _ List.mem_cons_self, htext,
      ⟨reception, hresponse, fun other hother => hother.unique hresponse⟩, hresponse.status_eq_iff⟩
  · obtain ⟨herror, text, hbody, hblank⟩ := hlacks
    obtain ⟨complaint, hrun⟩ :=
      run_outcome_of_isTorn hnumber operation hbody hblank herror htorn
    rw [hrun] at hrespond
    exact ⟨complaint, hrespond⟩

/-- A posted `1+2` is received in one way, and the default settings give the limit that it needs. -/
theorem Operation.receives_posted_sum :
    let request := Web.Request.posting .evaluation "1+2"
    request.IsPostTo Operation.evaluation.endpoint ∧
      (∀ text, Web.HandsOver request.body text → text.length ≤ Text.maxLength) ∧
      (∀ list, Web.Body.read request.body ≠ .error (.tooDeep list)) ∧
      (∀ body, Web.Body.read request.body = .ok body → body.standIns = none) ∧
      ∃ response,
        ((⟨Engine.make.value⟩ : Web.Server).respond {} request).outcome = .ok response ∧
        (∃! reception : Web.Reception,
          reception.Describes .evaluation {} request.body response) ∧
        response.status ≠ 500 := by
  intro request
  have hread : Web.HandsOver request.body "1+2" := (Web.Request.posts_posting _ _).body
  have hpost : request.IsPostTo Operation.evaluation.endpoint := ⟨rfl, rfl⟩
  have hlength : ∀ text, Web.HandsOver request.body text → text.length ≤ Text.maxLength := by
    intro text htext
    obtain rfl := htext.unique hread
    decide
  have hdepth : ∀ list, Web.Body.read request.body ≠ .error (.tooDeep list) := by
    intro list
    rw [hread]
    exact nofun
  have hwhole : ∀ body, Web.Body.read request.body = .ok body → body.standIns = none := by
    intro body hbody
    obtain rfl := Except.ok.inj (hread.symm.trans hbody)
    rfl
  have hlimit : Settings.lengthLimit {} = .ok (.whole 10000) := rfl
  have hlacks : ∀ error, ¬ Lacks {} request.body error := by
    rintro error ⟨herror, -⟩
    simp [hlimit] at herror
  obtain ⟨hreceived, -⟩ := Operation.receives .evaluation
    (Settings.limitIsNumber_of_environment []) hpost hlength hdepth hwhole
  obtain ⟨response, hresponse, -, -, hreception, hstatus⟩ :=
    hreceived fun error herror => absurd herror (hlacks error)
  refine ⟨hpost, hlength, hdepth, hwhole, response, hresponse, hreception, fun hmisconfigured => ?_⟩
  obtain ⟨error, herror⟩ := hstatus.mp hmisconfigured
  exact hlacks error herror

/-- If the length limit is the byte `FF`, a posted `1` needs the limit, and there is no response
that says so. -/
theorem Operation.fails_undecodable :
    let settings : Settings := .undecodable
    let request := Web.Request.posting .evaluation "1"
    (∃ error, Lacks settings request.body error) ∧
      ∃ complaint, ((⟨Engine.make.value⟩ : Web.Server).respond settings request).outcome =
        .error (.internal "UnicodeEncodeError" complaint) := by
  intro settings request
  have hread : Web.HandsOver request.body "1" := (Web.Request.posts_posting _ _).body
  have hpost : request.IsPostTo Operation.evaluation.endpoint := ⟨rfl, rfl⟩
  have hblank : Text.isBlankText "1" = false := by decide
  have hnumber : settings.LimitIsNumber := Settings.limitIsNumber_of_environment _
  obtain ⟨complaint, hrun⟩ := run_outcome_of_isTorn hnumber .evaluation hread hblank
    Settings.lengthLimit_undecodable (Variable.isTorn_undecodable _)
  obtain ⟨further, hrespond⟩ := respond_outcome settings hpost
  rw [hrun] at hrespond
  exact ⟨⟨_, Settings.lengthLimit_undecodable, "1", hread, hblank⟩, complaint, hrespond⟩

end Calculator
