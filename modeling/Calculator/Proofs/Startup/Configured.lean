import Calculator.Proofs.Tool.Dispatch
import Calculator.Proofs.Web.Reception

/-!
# Servers that start, and their configuration

A server that was started reads the length limit again for each expression. Without a limit the tool
server sends the code for misconfiguration, and so does the web server, unless its report would
quote lone surrogates: then it fails. The tool server reads the limit once before it serves, and
does not serve without one. The web server does not: it serves wherever its address settings and the
command line let it, and without a limit it answers requests with the code for misconfiguration, or
fails.

## Main definitions

* `Fault.IsTruthful`: a failure is reported as misconfiguration only if it is one.
* `Service.Asks`: the settings and the command line ask a server to serve at an address.
* `Service.CanReport`: a started server answers some request with a report of a given code.

## Main results

* `Web.unlimited_of_posted`, `ToolServer.unlimited_of_called`: what a request with an answer of that
  code tells about the settings.
* `Service.canReport_web_iff`, `Service.canReport_tools_iff`: which settings make a server send the
  code for misconfiguration.
* `Service.launch_of_asks`, `Service.launch_of_not_asks`, `Service.served_launch_iff`: what a start
  comes to, and when a server serves.
* `Service.configured_of_served`: **which servers that start are configured**.
-/

namespace Calculator

/-! ### What is answered -/

/-- A failure is reported as misconfiguration only if it tells that the settings give no length
limit. -/
def Fault.IsTruthful (settings : Settings) (fault : Fault) : Prop :=
  ∀ report, Report.ofFault fault = .ok report → report.code = "CONFIGURATION_ERROR" →
    ∃ error, settings.lengthLimit = .error error ∧ fault = error.toFault

variable {settings : Settings}

/-- A refusal is reported truthfully. -/
theorem Refusal.isTruthful {text : String} {fault : Fault} (h : Refusal settings text fault) :
    fault.IsTruthful settings :=
  fun _ hreport hcode => h.unlimited_of_code hreport hcode

/-- A problem with another code is reported with that code. -/
theorem Problem.isTruthful_of_code {problem : Problem} (h : problem.code ≠ "CONFIGURATION_ERROR") :
    (Fault.problem problem).IsTruthful settings := by
  intro report hreport hcode
  have hproblem : Report.ofProblem problem = .ok report := hreport
  exact absurd ((Report.code_of_ofProblem hproblem).symm.trans hcode) h

/-- A failure that nobody foresaw is reported with a code of its own. -/
theorem Fault.isTruthful_internal (kind message : String) :
    (Fault.internal kind message).IsTruthful settings := by
  intro report hreport hcode
  obtain rfl := Except.ok.inj hreport
  exact absurd hcode (by decide : "INTERNAL_ERROR" ≠ "CONFIGURATION_ERROR")

/-- What cannot be written is no misconfiguration. -/
theorem Obstacle.isTruthful_toFault (obstacle : Obstacle) (activity : String) :
    (obstacle.toFault activity).IsTruthful settings := by
  cases obstacle <;> exact Fault.isTruthful_internal _ _

/-- Data that does not fit is reported with a code of its own. -/
theorem Fault.isTruthful_invalidRequest (issues : List Issue) :
    (Fault.invalidRequest issues).IsTruthful settings := by
  intro report hreport hcode
  obtain rfl := Except.ok.inj hreport
  exact absurd hcode (by decide : "PYDANTIC_VALIDATION_ERROR" ≠ "CONFIGURATION_ERROR")

/-- If a text reports a misconfiguration, and is the report of a failure that is reported
truthfully, the failure tells that there is no length limit. -/
theorem Service.Reports.unlimited {service : Service} {text : String} {fault : Fault}
    {report : Report} {standIns : Option Text.Surrogate.Block}
    (h : service.Reports "CONFIGURATION_ERROR" text)
    (hfault : fault.IsTruthful settings) (hreport : Report.ofFault fault = .ok report)
    (hrender : (service.shape report).render (service.layout.withStandIns standIns) = text) :
    ∃ error, settings.lengthLimit = .error error ∧ fault = error.toFault := by
  have hplain : Json.IsPlain "CONFIGURATION_ERROR" := by decide
  have hsame := service.reports_render report standIns
  rw [hrender] at hsame
  exact hfault report hreport (h.eq_of_isPlain hplain hsame)

/-! ### The web server -/

namespace Web

variable {operation : Operation} {endpoint : Endpoint} {request : Request} {response : Response}

/-- An operation on the expression of a body fails for the body, or it refuses the expression. -/
theorem Body.isTruthful_of_error {body : Body} {fault : Fault}
    (h : body.expression.bind (operation.outcome settings ·) = .error fault) :
    fault.IsTruthful settings := by
  cases hexpression : body.expression with
  | ok text =>
      rw [hexpression] at h
      have hrefusal : Refusal settings text fault := Operation.refusal_of_outcome h
      exact hrefusal.isTruthful
  | error reason =>
      rw [hexpression] at h
      obtain rfl := Except.error.inj h
      obtain ⟨issues, rfl⟩ := exists_issues_of_expression hexpression
      exact Fault.isTruthful_invalidRequest issues

/-- Bytes that cannot be read are no misconfiguration. -/
theorem Body.isTruthful_unreadable (error : Json.ReadError) :
    (unreadable error).IsTruthful settings := by
  cases error with
  | malformed =>
      exact Problem.isTruthful_of_code (by decide : "VALIDATION_ERROR" ≠ "CONFIGURATION_ERROR")
  | tooDeep list => exact Fault.isTruthful_internal _ _

/-- A response to a failure that is reported truthfully has the code for misconfiguration only if
there is no length limit, and if the problem with it quotes no lone surrogates. -/
private theorem unlimited_of_faultResponse (hnumber : settings.LimitIsNumber) {fault : Fault}
    {standIns : Option Text.Surrogate.Block}
    (h : (Server.faultResponse endpoint fault standIns).outcome = .ok response)
    (hfault : fault.IsTruthful settings)
    (hcode : Service.web.Reports "CONFIGURATION_ERROR" response.body) :
    ∃ error, settings.lengthLimit = .error error ∧ ¬ error.toProblem.IsTorn := by
  obtain ⟨report, hreport, hwritten⟩ := Server.write_of_faultResponse h
  have hrender : (Service.web.shape report).render (Service.web.layout.withStandIns none) =
      response.body := (Json.write_eq_ok_iff.mp hwritten).2
  obtain ⟨error, herror, rfl⟩ := hcode.unlimited hfault hreport hrender
  refine ⟨error, herror, fun htorn => ?_⟩
  obtain ⟨complaint, hfails⟩ :=
    Server.faultResponse_of_isTorn endpoint (hnumber.isRefusal herror) htorn standIns
  rw [hnumber.toFault_eq herror, hfails] at h
  cases h

/-- **Whatever is posted**, the response has the code for misconfiguration only if there is no
length limit, and if the problem with it quotes no lone surrogates. -/
theorem unlimited_of_posted (hnumber : settings.LimitIsNumber)
    (hpost : request.IsPostTo operation.endpoint)
    (hresponse : ((⟨Engine.make.value⟩ : Server).respond settings request).outcome = .ok response)
    (hcode : Service.web.Reports "CONFIGURATION_ERROR" response.body) :
    ∃ error, settings.lengthLimit = .error error ∧ ¬ error.toProblem.IsTorn := by
  obtain ⟨further, hrespond⟩ := Operation.respond_outcome settings hpost
  -- the text is the one that the endpoint made, since only headers are added to it
  obtain ⟨sent, hrun, hbody⟩ : ∃ sent, (Server.run operation.endpoint request
      (operation.ofEngine Engine.make.value settings ·)).outcome = .ok sent ∧
        sent.body = response.body := by
    rw [hresponse] at hrespond
    cases hrun : (Server.run operation.endpoint request
        (operation.ofEngine Engine.make.value settings ·)).outcome with
    | error fault => simp [hrun, Except.map] at hrespond
    | ok sent =>
        rw [hrun] at hrespond
        obtain rfl := Except.ok.inj hrespond
        exact ⟨sent, rfl, rfl⟩
  rw [← hbody] at hcode
  cases hread : Body.read request.body with
  | error error =>
      rw [Server.run_outcome_of_unreadable hread] at hrun
      exact unlimited_of_faultResponse hnumber hrun (Body.isTruthful_unreadable error) hcode
  | ok body =>
      rw [Operation.run_outcome_of_read hread] at hrun
      cases houtcome : body.expression.bind (operation.outcome settings ·) with
      | error fault =>
          rw [houtcome] at hrun
          exact unlimited_of_faultResponse hnumber hrun (Body.isTruthful_of_error houtcome) hcode
      | ok answer =>
          rw [houtcome] at hrun
          have hrender := (Json.write_eq_ok_iff.mp (Server.write_of_jsonResponse hrun)).2
          rw [← hrender] at hcode
          have hanswer : ¬ Service.web.Reports "CONFIGURATION_ERROR"
              (Json.render Service.web.layout (.obj (("status", .str "ok") :: answer.members))) :=
            Service.not_reports_of_first (by decide) (by decide) (by decide)
          exact absurd hcode hanswer

end Web

/-! ### The tool server -/

namespace Arithmetic

/-- Arguments without an expression are no misconfiguration. -/
private theorem isTruthful_of_expressionArgument {arguments : Json} {fault : Fault}
    (h : expressionArgument arguments = .error fault) : fault.worded.IsTruthful settings := by
  have hcode : "INVALID_INPUT" ≠ "CONFIGURATION_ERROR" := by decide
  cases arguments with
  | obj members =>
      simp only [expressionArgument] at h
      split at h
      · simp at h
      · obtain rfl := Except.error.inj h
        exact Problem.isTruthful_of_code hcode
      · obtain rfl := Except.error.inj h
        exact Problem.isTruthful_of_code hcode
  | null | bool value | int value | float value | str value | arr items =>
      obtain rfl := Except.error.inj h
      exact Fault.isTruthful_internal _ _

/-- A tool of the expression capability fails for its arguments, or it refuses the expression. -/
theorem isTruthful_of_answer {tool : String} {arguments : Json} {fault : Fault}
    (h : (answer settings tool arguments).outcome = .error fault) :
    fault.worded.IsTruthful settings := by
  have hoperation (operation : Operation) (handed : String → Run Answer)
      (hhanded : ∀ text, (handed text).outcome = operation.outcome settings text)
      (herror : (Run.ofExcept (expressionArgument arguments) >>= handed).outcome = .error fault) :
      fault.worded.IsTruthful settings := by
    rw [Run.outcome_bind, Run.outcome_ofExcept] at herror
    cases hargument : expressionArgument arguments with
    | error reason =>
        rw [hargument] at herror
        obtain rfl := Except.error.inj herror
        exact isTruthful_of_expressionArgument hargument
    | ok text =>
        rw [hargument] at herror
        have hrefused : operation.outcome settings text = .error fault :=
          (hhanded text).symm.trans herror
        have hrefusal := Operation.refusal_of_outcome hrefused
        rw [hrefusal.worded_eq]
        exact hrefusal.isTruthful
  rw [answer] at h
  split at h
  · exact hoperation .conversion _ (Operation.postfixAnswer_outcome settings) h
  · split at h
    · exact hoperation .evaluation _ (Operation.valueAnswer_outcome settings) h
    · split at h
      · simp at h
      · obtain rfl := Except.error.inj h
        exact Problem.isTruthful_of_code (by decide : "INVALID_INPUT" ≠ "CONFIGURATION_ERROR")

end Arithmetic

/-- The expression capability fails for the texts of its arguments, or one of its tools fails. -/
theorem Capability.isTruthful_of_expression {tool : String} {arguments : Json} {fault : Fault}
    (h : (Capability.expression.handle settings tool arguments).outcome = .error fault) :
    fault.IsTruthful settings := by
  rw [expression_outcome, Run.argumentText, Json.toText] at h
  cases htext : arguments.displayed with
  | error obstacle =>
      rw [htext] at h
      obtain rfl := Except.error.inj h
      exact obstacle.isTruthful_toFault _
  | ok text =>
      rw [htext] at h
      cases hanswer : (Arithmetic.answer settings tool arguments).outcome with
      | ok answer => simp [hanswer, Except.map, Except.mapError, Except.bind] at h
      | error reason =>
          rw [hanswer] at h
          obtain rfl := Except.error.inj h
          exact Arithmetic.isTruthful_of_answer hanswer

namespace ToolServer

variable {registry : Registry} {tool text : String} {arguments : Json}

/-- A text for a failure is a report of it. -/
private theorem exists_report_of_mem {fault : Fault} {texts : List String}
    (h : (encodeFault fault).map (fun text => [text]) = .ok texts) (htext : text ∈ texts) :
    ∃ report, Report.ofFault fault = .ok report ∧
      report.toTool.render (Json.Layout.spaced.withStandIns (fault.standIns none)) = text := by
  rw [encodeFault] at h
  cases hreport : Report.ofFault fault with
  | error reason => simp [hreport, Except.map] at h
  | ok report =>
      simp only [hreport] at h
      cases hwritten : report.toTool.write
          (Json.Layout.spaced.withStandIns (fault.standIns none)) true with
      | error reason => simp [hwritten, Except.map] at h
      | ok written =>
          rw [hwritten] at h
          obtain rfl := Except.ok.inj h
          obtain rfl := List.mem_singleton.mp htext
          exact ⟨report, rfl, (Json.write_eq_ok_iff.mp hwritten).2⟩

/-- A text for a failure that is reported truthfully has the code for misconfiguration only if there
is no length limit. -/
private theorem unlimited_of_mem {fault : Fault} {texts : List String}
    (h : (encodeFault fault).map (fun text => [text]) = .ok texts) (htext : text ∈ texts)
    (hfault : fault.IsTruthful settings)
    (hcode : Service.tools.Reports "CONFIGURATION_ERROR" text) :
    ∃ error, settings.lengthLimit = .error error := by
  obtain ⟨report, hreport, hrender⟩ := exists_report_of_mem h htext
  obtain ⟨error, herror, -⟩ := hcode.unlimited hfault hreport hrender
  exact ⟨error, herror⟩

/-- A text for the outcome of a handler whose failures are reported truthfully has the code for
misconfiguration only if there is no length limit. -/
private theorem unlimited_of_answered {outcome : Except Fault Answer} {texts : List String}
    (h : answered outcome = .ok texts) (htext : text ∈ texts)
    (hfault : ∀ fault, outcome = .error fault → fault.IsTruthful settings)
    (hcode : Service.tools.Reports "CONFIGURATION_ERROR" text) :
    ∃ error, settings.lengthLimit = .error error := by
  rw [answered] at h
  cases outcome with
  | error fault => exact unlimited_of_mem h htext (hfault fault rfl) hcode
  | ok answer =>
      simp only [Except.bind, encode] at h
      cases hwritten : (Json.obj answer.members).write .spaced true with
      | ok written =>
          rw [hwritten] at h
          obtain rfl := Except.ok.inj h
          obtain rfl := List.mem_singleton.mp htext
          obtain ⟨-, rfl⟩ := Json.write_eq_ok_iff.mp hwritten
          have hkind : Json.IsPlain answer.kind.name := by cases answer.kind <;> decide
          have hanswer : ¬ Service.tools.Reports "CONFIGURATION_ERROR"
              (Json.render Service.tools.layout (.obj answer.members)) :=
            Service.not_reports_of_first (by decide) hkind fun heq =>
              absurd (Prod.mk.inj heq).1 (by decide)
          exact absurd hcode hanswer
      | error reason =>
          -- an answer that cannot be written is reported for what cannot be written in it
          rw [hwritten] at h
          have hobstacle : ∃ obstacle : Obstacle, reason = obstacle.toFault Json.encoding := by
            rw [Json.write] at hwritten
            cases hencoded : (Json.obj answer.members).encode .spaced true with
            | ok written => simp [hencoded, Except.mapError] at hwritten
            | error obstacle =>
                rw [hencoded] at hwritten
                exact ⟨obstacle, (Except.error.inj hwritten).symm⟩
          obtain ⟨obstacle, rfl⟩ := hobstacle
          exact unlimited_of_mem h htext (obstacle.isTruthful_toFault _) hcode

/-- A call of a name that leads nowhere is answered by a report. -/
private theorem call_unrouted_outcome (hname : tool ≠ ping.name)
    (hroute : registry.route? tool = none) :
    (call registry settings tool arguments).outcome =
      (encodeFault (.problem (.general "REGISTRY_ERROR" ("Unknown tool: " ++ tool) []))).map
        fun text => [text] := by
  simp only [call, Run.outcome_bind, Run.outcome_log, if_neg hname, hroute, Option.isSome_none,
    Bool.false_eq_true, if_false]
  rfl

/-- Making a registry ready is an action of its history. -/
theorem prepare_eq_after : (prepare {}).value.2 = Registry.after [.prepare] := rfl

/-- Every name in a registry that was made ready leads to the expression capability. -/
theorem capability_of_prepared {route : Route}
    (h : (prepare {}).value.2.route? tool = some route) : route.capability = .expression := by
  have hcoherent := Registry.coherent_after [.prepare]
  rw [prepare_eq_after] at h
  obtain ⟨-, -, howner⟩ := hcoherent.route_leads h
  have hmem : (route.capability.name, route.capability) ∈
      [(Arithmetic.capabilityName, Capability.expression)] := Table.mem_of_get? howner
  exact (Prod.mk.inj (List.mem_singleton.mp hmem)).2

/-- **Whatever is called** after the registry was made ready, a text has the code for
misconfiguration only if there is no length limit. -/
theorem unlimited_of_called {texts : List String}
    (h : (call (prepare {}).value.2 settings tool arguments).outcome = .ok texts)
    (htext : text ∈ texts) (hcode : Service.tools.Reports "CONFIGURATION_ERROR" text) :
    ∃ error, settings.lengthLimit = .error error := by
  -- a name is the server's own, or leads nowhere, or leads to the expression capability
  by_cases hname : tool = ping.name
  · subst hname
    rw [call_ping_outcome] at h
    obtain rfl := Except.ok.inj h
    obtain rfl := List.mem_singleton.mp htext
    have hpong : ¬ Service.tools.Reports "CONFIGURATION_ERROR" (Json.render Service.tools.layout
        (.obj [("status", .str "ok"), ("service", .str serviceName)])) :=
      Service.not_reports_of_first (by decide) (by decide) (by decide)
    exact absurd hcode hpong
  · cases hroute : (prepare {}).value.2.route? tool with
    | none =>
        rw [call_unrouted_outcome hname hroute] at h
        have hother : "REGISTRY_ERROR" ≠ "CONFIGURATION_ERROR" := by decide
        exact unlimited_of_mem h htext (Problem.isTruthful_of_code hother) hcode
    | some route =>
        rw [call_routed_outcome hname hroute, registry_call_outcome hroute,
          capability_of_prepared hroute] at h
        exact unlimited_of_answered h htext
          (fun fault hfault => Capability.isTruthful_of_expression hfault) hcode

end ToolServer

/-! ### Started servers -/

namespace Service

/-- A started server answers some request with a report of a code. -/
def CanReport (settings : Settings) (code : String) : Service → Prop
  | .web => ∃ (operation : Operation) (request : Web.Request) (response : Web.Response),
    request.IsPostTo operation.endpoint ∧
      ((⟨Engine.make.value⟩ : Web.Server).respond settings request).outcome = .ok response ∧
      Service.web.Reports code response.body
  | .tools => ∃ (tool : String) (arguments : Json) (texts : List String), ∃ text ∈ texts,
    (ToolServer.call (ToolServer.prepare {}).value.2 settings tool arguments).outcome = .ok texts ∧
      Service.tools.Reports code text

/-- The text `1` is not blank. -/
private theorem one_not_blank : Text.isBlankText "1" = false := by decide

section

variable (hnumber : settings.LimitIsNumber) {error : SettingsError}
  (herror : settings.lengthLimit = .error error)

include hnumber herror

/-- Without a length limit, the web server answers a posted expression with the code for
misconfiguration, if the problem quotes no lone surrogates. -/
private theorem exists_respond_posting (hwhole : ¬ error.toProblem.IsTorn) (operation : Operation)
    {text : String} (hblank : Text.isBlankText text = false) :
    ∃ response, ((⟨Engine.make.value⟩ : Web.Server).respond settings
        (.posting operation text)).outcome = .ok response ∧
      response.Reports 500 "CONFIGURATION_ERROR" := by
  have hposts := Web.Request.posts_posting operation text
  obtain ⟨status, body, hrun, -, hreceived⟩ : operation.Receives settings (.posting operation text)
      .misconfigured := Operation.receives_misconfigured hnumber hposts.body hblank herror hwhole
  obtain ⟨further, hrespond⟩ := Operation.respond_outcome settings ⟨hposts.method, hposts.path⟩
  rw [hrun] at hrespond
  obtain ⟨-, -, -, -, -, hreports⟩ := hreceived []
  exact ⟨_, hrespond, hreports⟩

/-- If the problem with the length limit quotes lone surrogates, the web server does not respond to
a posted expression. -/
private theorem respond_posting_of_isTorn (htorn : error.toProblem.IsTorn) (operation : Operation)
    {text : String} (hblank : Text.isBlankText text = false) :
    ∃ complaint, ((⟨Engine.make.value⟩ : Web.Server).respond settings
        (.posting operation text)).outcome = .error (.internal "UnicodeEncodeError" complaint) := by
  have hposts := Web.Request.posts_posting operation text
  obtain ⟨complaint, hrun⟩ :=
    Operation.run_outcome_of_isTorn hnumber operation hposts.body hblank herror htorn
  obtain ⟨further, hrespond⟩ := Operation.respond_outcome settings ⟨hposts.method, hposts.path⟩
  rw [hrun] at hrespond
  exact ⟨complaint, hrespond⟩

/-- Without a length limit, the tool server sends the code for misconfiguration. -/
private theorem canReport_tools : Service.tools.CanReport settings "CONFIGURATION_ERROR" := by
  have houtcome :
      Operation.evaluation.outcome settings "1" = .error (.problem error.toProblem) := by
    rw [Operation.outcome_of_unlimited one_not_blank herror, hnumber.toFault_eq herror]
  obtain ⟨hint, -, ⟨-, hcalls⟩, -⟩ :=
    (Operation.refuses_of_outcome houtcome (hnumber.isRefusal herror)).reported
  have hregistered : (Registry.after [.prepare]).capability? Arithmetic.capabilityName =
      some .expression := rfl
  refine ⟨Operation.evaluation.tool, expressionObject "1", _, _, List.mem_singleton_self _, ?_,
    error.toProblem.message, error.toProblem.detailsJson, hint, error.toProblem.standIns, rfl⟩
  rw [ToolServer.prepare_eq_after]
  exact hcalls _ hregistered

end

/-- **Which settings make the web server send the code for misconfiguration**: those that give no
length limit, for a problem that quotes no lone surrogates. -/
theorem canReport_web_iff (hnumber : settings.LimitIsNumber) :
    Service.web.CanReport settings "CONFIGURATION_ERROR" ↔
      ∃ error, settings.lengthLimit = .error error ∧ ¬ error.toProblem.IsTorn := by
  constructor
  · rintro ⟨operation, request, response, hpost, hresponse, hreports⟩
    exact Web.unlimited_of_posted hnumber hpost hresponse hreports
  · rintro ⟨error, herror, hwhole⟩
    obtain ⟨response, hrespond, -, hreports⟩ :=
      exists_respond_posting hnumber herror hwhole .evaluation one_not_blank
    exact ⟨.evaluation, .posting .evaluation "1", response, ⟨rfl, rfl⟩, hrespond, hreports⟩

/-- **Which settings make the tool server send the code for misconfiguration**: those that give no
length limit. -/
theorem canReport_tools_iff (hnumber : settings.LimitIsNumber) :
    Service.tools.CanReport settings "CONFIGURATION_ERROR" ↔
      ∃ error, settings.lengthLimit = .error error := by
  constructor
  · rintro ⟨tool, arguments, texts, text, htext, hcall, hreports⟩
    exact ToolServer.unlimited_of_called hcall htext hreports
  · rintro ⟨error, herror⟩
    exact canReport_tools hnumber herror

/-! ### Starts -/

/-- The settings give an address, and the command line asks to serve at an address. -/
def Asks (service : Service) (settings : Settings) (arguments : List String) (address : Address) :
    Prop :=
  ∃ given, service.defaultAddress settings = .ok given ∧
    CommandLine.parse given arguments = .serve address

variable {service : Service} {arguments : List String} {address : Address}

/-- What an announcement comes to: the tool server needs the length limit. -/
theorem announce_value (service : Service) (settings : Settings) (address : Address) :
    (service.announce settings address).value =
      match service, settings.lengthLimit with
      | .tools, .error _ => .error 1
      | _, _ => .ok address := by
  cases service with
  | web => rfl
  | tools =>
      simp only [announce, configuration]
      cases settings.lengthLimit <;> rfl

/-- A server that is asked to serve gets ready to. -/
private theorem start_of_asks (h : service.Asks settings arguments address) :
    (service.start settings arguments).value = (service.announce settings address).value := by
  obtain ⟨given, hgiven, hparse⟩ := h
  rw [start, hgiven]
  simp only [hparse]

/-- A server that is asked to serve does, unless it is the tool server and there is no length
limit. -/
theorem launch_of_asks (h : service.Asks settings arguments address) (serving : Serving) :
    (service.launch settings arguments serving).value =
      match service, settings.lengthLimit with
      | .tools, .error _ => ⟨some 1, none⟩
      | _, _ => ⟨(service.stop serving).value, some address⟩ := by
  rw [launch, Traced.value_bind, start_of_asks h, announce_value]
  cases service <;> cases settings.lengthLimit <;> rfl

/-- A server that is not asked to serve ends at once: its address is not given, or it was asked for
help, or for something that it does not understand. -/
theorem launch_of_not_asks (h : ∀ address, ¬ service.Asks settings arguments address)
    (serving : Serving) :
    (service.launch settings arguments serving).value =
      match service.defaultAddress settings with
      | .error _ => ⟨some 1, none⟩
      | .ok given => ⟨some (match CommandLine.parse given arguments with
        | .help => 0
        | _ => 2), none⟩ := by
  rw [launch, Traced.value_bind, start]
  cases hgiven : service.defaultAddress settings with
  | error error => rfl
  | ok given =>
      cases hparse : CommandLine.parse given arguments with
      | serve address => exact absurd ⟨given, hgiven, hparse⟩ (h address)
      | help => simp only [hparse]; rfl
      | invalid => simp only [hparse]; rfl

/-- A server that is not asked to serve does not. -/
theorem served_of_not_asks (h : ∀ address, ¬ service.Asks settings arguments address)
    (serving : Serving) : (service.launch settings arguments serving).value.served = none := by
  rw [launch_of_not_asks h]
  split <;> rfl

/-- **When a server serves**: it is asked to, and the tool server needs the length limit. -/
theorem served_launch_iff (serving : Serving) :
    (service.launch settings arguments serving).value.served = some address ↔
      service.Asks settings arguments address ∧
        (service = .tools → ∃ limit, settings.lengthLimit = .ok limit) := by
  constructor
  · intro hserved
    by_cases hasks : ∃ address, service.Asks settings arguments address
    · obtain ⟨asked, hasked⟩ := hasks
      rw [launch_of_asks hasked] at hserved
      cases service with
      | web =>
          obtain rfl := Option.some.inj hserved
          exact ⟨hasked, nofun⟩
      | tools =>
          cases hlimit : settings.lengthLimit with
          | error error => simp [hlimit] at hserved
          | ok limit =>
              rw [hlimit] at hserved
              obtain rfl := Option.some.inj hserved
              exact ⟨hasked, fun _ => ⟨limit, rfl⟩⟩
    · have hnone := served_of_not_asks (not_exists.mp hasks) serving
      simp [hnone] at hserved
  · rintro ⟨hasks, hlimit⟩
    rw [launch_of_asks hasks]
    cases service with
    | web => rfl
    | tools =>
        obtain ⟨limit, hlimit⟩ := hlimit rfl
        rw [hlimit]

/-! ### The main result -/

/-- **Which servers that start are configured.** Under an environment without overrides,

* a started tool server can answer with the code for misconfiguration exactly if the environment
  gives no length limit, and a started web server if, besides, the problem with the limit quotes no
  lone surrogates; if it does, no expression that needs the limit has a response from the web
  server;
* the tool server serves exactly if it is asked to and cannot answer with that code; if it could, a
  start ends with exit code 1, unless it ends before for want of being asked to serve: with exit
  code 0 after a request for help, and with 2 after arguments that are not understood;
* the web server serves exactly if it is asked to, whether it can answer with that code or not. -/
theorem configured_of_served (environment : Table Variable) (arguments : List String)
    (serving : Serving) :
    let settings : Settings := { environment }
    (Service.tools.CanReport settings "CONFIGURATION_ERROR" ↔
      ∃ error, settings.lengthLimit = .error error) ∧
    (Service.web.CanReport settings "CONFIGURATION_ERROR" ↔
      ∃ error, settings.lengthLimit = .error error ∧ ¬ error.toProblem.IsTorn) ∧
    (∀ error, settings.lengthLimit = .error error → error.toProblem.IsTorn →
      ∀ operation text, Text.isBlankText text = false →
        ∃ complaint, ((⟨Engine.make.value⟩ : Web.Server).respond settings
            (.posting operation text)).outcome =
          .error (.internal "UnicodeEncodeError" complaint)) ∧
    (∀ address, (Service.tools.launch settings arguments serving).value.served = some address ↔
      Service.tools.Asks settings arguments address ∧
        ¬ Service.tools.CanReport settings "CONFIGURATION_ERROR") ∧
    (Service.tools.CanReport settings "CONFIGURATION_ERROR" →
      (Service.tools.launch settings arguments serving).value =
        match Service.tools.defaultAddress settings with
        | .error _ => ⟨some 1, none⟩
        | .ok given => ⟨some (match CommandLine.parse given arguments with
          | .serve _ => 1
          | .help => 0
          | .invalid => 2), none⟩) ∧
    (∀ address, (Service.web.launch settings arguments serving).value.served = some address ↔
      Service.web.Asks settings arguments address) := by
  intro settings
  have hnumber : settings.LimitIsNumber := Settings.limitIsNumber_of_environment environment
  refine ⟨canReport_tools_iff hnumber, canReport_web_iff hnumber,
    fun error herror htorn operation text hblank =>
      respond_posting_of_isTorn hnumber herror htorn operation hblank,
    fun address => ?_, fun hreport => ?_, fun address => ?_⟩
  · rw [served_launch_iff, canReport_tools_iff hnumber]
    have hlimit : (∃ limit, settings.lengthLimit = .ok limit) ↔
        ¬ ∃ error, settings.lengthLimit = .error error := by
      cases settings.lengthLimit <;> simp
    simp [hlimit]
  · obtain ⟨error, herror⟩ := (canReport_tools_iff hnumber).mp hreport
    by_cases hasks : ∃ address, Service.tools.Asks settings arguments address
    · obtain ⟨address, hasked⟩ := hasks
      obtain ⟨given, hgiven, hparse⟩ := id hasked
      rw [launch_of_asks hasked, herror, hgiven]
      simp only [hparse]
    · rw [launch_of_not_asks (not_exists.mp hasks)]
      cases hgiven : Service.tools.defaultAddress settings with
      | error error => rfl
      | ok given =>
          cases hparse : CommandLine.parse given arguments with
          | serve address => exact absurd ⟨address, given, hgiven, hparse⟩ hasks
          | help => simp only [hparse]
          | invalid => simp only [hparse]
  · rw [served_launch_iff, and_iff_left (by simp)]

/-- With a length limit of zero in the environment, the web server serves, and answers a posted `1`
with the code for misconfiguration; the tool server does not serve. -/
theorem web_serves_misconfigured :
    let settings : Settings := { environment := [("RPNCALC_MAX_EXPRESSION_LENGTH", "0")] }
    (Service.web.launch settings [] .finished).value =
        ⟨none, some ⟨.str "0.0.0.0", .int 8022⟩⟩ ∧
      (∃ response, ((⟨Engine.make.value⟩ : Web.Server).respond settings
          (.posting .evaluation "1")).outcome = .ok response ∧
        response.Reports 500 "CONFIGURATION_ERROR") ∧
      (Service.tools.launch settings [] .finished).value = ⟨some 1, none⟩ := by
  intro settings
  have hnumber := Settings.limitIsNumber_of_environment settings.environment
  have hlimit : settings.lengthLimit = .error (.notPositive (.whole 0)) := rfl
  have hwhole : ¬ (SettingsError.notPositive (.whole 0)).toProblem.IsTorn := by
    rintro ⟨-, block, hblock, -⟩
    cases hblock
  have hanswer := exists_respond_posting hnumber hlimit hwhole .evaluation one_not_blank
  exact ⟨rfl, hanswer, rfl⟩

end Service

end Calculator
