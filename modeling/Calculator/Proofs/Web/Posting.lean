import Calculator.Proofs.Json.Reading
import Calculator.Proofs.Service.Report
import Calculator.Web.Server

/-!
# Posted expressions

A client posts an expression as an object with one member, and the object as JSON in UTF-8. The
server reads this object, whatever the expression is. What it responds then depends on the outcome
of the operation alone: headers play no part, and a request from another origin gets one header
more. Bytes that are no JSON and data that does not fit are answered like any other failure, by a
report.

## Main definitions

* `expressionObject`: the object that hands over an expression.
* `Request.IsPostTo`, `Request.Posts`: a request that is posted to an endpoint, and one that hands
  over an expression.
* `Fault.IsForeseen`: the failures that are reported to a client.
* `Server.responseTo`: the response to an expression, by the outcome of the operation.

## Main results

* `Body.read_render`: an expression that was written as JSON is read.
* `Server.run_outcome_of_read`, `Server.run_outcome_of_unreadable`: what an endpoint makes of a
  body.
* `Server.run_outcome`: an expression is answered for the outcome of the operation.
* `Server.respond_outcome`, `Server.exists_respond_outcome`: the answer is sent with its status and
  its body.
-/

namespace Calculator

/-- A failure that the program foresees: a problem, or data that does not fit. -/
def Fault.IsForeseen : Fault → Prop
  | .problem _ => True
  | .invalidRequest _ => True
  | _ => False

/-- The object that hands over an expression. -/
def expressionObject (text : String) : Json := .obj [("expression", .str text)]

namespace Web

/-! ### Bodies -/

namespace Body

/-- Bytes that are read as one value, whatever lone surrogates are read as, hold none. -/
theorem read_of_parse {bytes : List UInt8} {value : Json}
    (h : ∀ lone, parse lone bytes = .ok value) : read bytes = .ok { data := value } := by
  rw [read, h]
  cases hfree : Text.Surrogate.Block.free? value.characters with
  | none =>
      simp only [hfree, bind, Except.bind, pure, Except.pure]
  | some block =>
      have hnone : value.characters.any block.contains = false := by
        rw [List.any_eq_false]
        intro c hc
        simp [Text.Surrogate.Block.not_contains_of_free? hfree hc]
      simp only [h, hfree, hnone, bind, Except.bind, pure, Except.pure, Bool.false_eq_true,
        if_false]

/-- An expression that was written as JSON is read. -/
theorem read_render {layout : Json.Layout} (hlayout : layout = .compact ∨ layout = .spaced)
    (text : String) :
    read (Json.render layout (expressionObject text)).toUTF8.toList =
      .ok { data := expressionObject text } := by
  refine read_of_parse fun lone => ?_
  have hdecode := Text.decode?_of_ascii lone (by decide) (by decide) (by decide) (by decide)
    (Json.toList_render_singleton layout "expression" text)
  rw [parse, expressionObject, hdecode]
  exact Json.read_render_singleton lone hlayout 967 "expression" text

/-- The expression in the object that hands it over. -/
@[simp]
theorem expression_object (text : String) :
    expression { data := expressionObject text } = .ok text := rfl

end Body

/-! ### Responses -/

/-- A request is posted to an endpoint, whatever its body is. -/
structure Request.IsPostTo (request : Request) (endpoint : Endpoint) : Prop where
  /-- The method. -/
  method : request.method = "POST"
  /-- The path is that of the endpoint. -/
  path : request.path = endpoint.path

/-- A request posts an expression to an endpoint. -/
structure Request.Posts (request : Request) (endpoint : Endpoint) (text : String) : Prop where
  /-- The method. -/
  method : request.method = "POST"
  /-- The path is that of the endpoint. -/
  path : request.path = endpoint.path
  /-- The body is read as the object that hands over the expression. -/
  body : Body.read request.body = .ok { data := expressionObject text }

namespace Server

variable {server : Server} {settings : Settings} {request : Request} {endpoint : Endpoint}
variable {operation : String → Run Answer} {text : String} {fault : Fault} {report : Report}
variable {standIns : Option Text.Surrogate.Block} {response : Response}

/-- A value without an obstacle is sent if the encoder does not complain about lone surrogates. -/
theorem jsonResponse_outcome {value : Json} (h : value.obstacle? true Json.maxDepth = none)
    (hwhole : standIns.bind (·.complaint? (value.render .compact)) = none) (status : Nat) :
    (jsonResponse status value standIns).outcome = .ok (.json status (value.render .compact)) := by
  rw [jsonResponse, Json.write_eq_ok_iff.mpr ⟨h, rfl⟩]
  simp only [hwhole]
  rfl

/-- If the encoder complains, the complaint is the failure to send the value. -/
theorem jsonResponse_outcome_of_complaint {value : Json} {complaint : String}
    (h : value.obstacle? true Json.maxDepth = none)
    (htorn : standIns.bind (·.complaint? (value.render .compact)) = some complaint)
    (status : Nat) :
    (jsonResponse status value standIns).outcome =
      .error (.internal "UnicodeEncodeError" complaint) := by
  rw [jsonResponse, Json.write_eq_ok_iff.mpr ⟨h, rfl⟩]
  simp only [htorn]
  rfl

/-- What is sent is written as strict JSON. -/
theorem write_of_jsonResponse {status : Nat} {value : Json}
    (h : (jsonResponse status value standIns).outcome = .ok response) :
    value.write .compact true = .ok response.body := by
  rw [jsonResponse] at h
  split at h
  · simp at h
  · next body hbody =>
    split at h
    · obtain rfl := Except.ok.inj h
      exact hbody
    · simp at h

/-- A foreseen failure is answered by its report. -/
theorem faultResponse_outcome (hforeseen : fault.IsForeseen)
    (hreport : Report.ofFault fault = .ok report) :
    (faultResponse endpoint fault standIns).outcome =
      (jsonResponse fault.status report.toWeb (fault.standIns standIns)).outcome := by
  cases fault with
  | internal kind message => exact hforeseen.elim
  | wordless kind reason => exact hforeseen.elim
  | problem _ | invalidRequest _ =>
      simp only [faultResponse, Run.outcome_bind, Run.outcome_log, Run.outcome_ofExcept, hreport,
        Except.bind]

/-- **What a refusal is answered by**: the report of the problem, unless it quotes lone
surrogates. -/
theorem faultResponse_of_isRefusal {problem : Problem} (endpoint : Endpoint)
    (h : problem.IsRefusal) :
    ∃ report, Report.ofFault (.problem problem) = .ok report ∧ report.Tells problem ∧
      report.toWeb.obstacle? true Json.maxDepth = none ∧
      (¬ problem.IsTorn → (faultResponse endpoint (.problem problem)).outcome =
        .ok (.json (Fault.problem problem).status (report.toWeb.render .compact))) := by
  obtain ⟨report, hreport, htells, hwritten⟩ := (h.reportable .web).exists_report
  have hforeseen : (Fault.problem problem).IsForeseen := trivial
  refine ⟨report, hreport, htells, hwritten, fun hwhole => ?_⟩
  rw [faultResponse_outcome hforeseen hreport, h.standIns]
  exact jsonResponse_outcome hwritten ((h.encodes report htells hwritten).mpr hwhole) _

/-- **The report of a problem that quotes lone surrogates cannot be encoded**, whatever stands for
those of the request. -/
theorem faultResponse_of_isTorn {problem : Problem} (endpoint : Endpoint) (h : problem.IsRefusal)
    (htorn : problem.IsTorn) (standIns : Option Text.Surrogate.Block) :
    ∃ complaint, (faultResponse endpoint (.problem problem) standIns).outcome =
      .error (.internal "UnicodeEncodeError" complaint) := by
  obtain ⟨report, hreport, htells, hwritten⟩ := (h.reportable .web).exists_report
  have hforeseen : (Fault.problem problem).IsForeseen := trivial
  have hstandIns : (Fault.problem problem).standIns standIns = problem.standIns := if_pos htorn.1
  have hencodes := h.encodes report htells hwritten
  obtain ⟨complaint, hcomplaint⟩ :=
    Option.ne_none_iff_exists'.mp fun hnone => hencodes.mp hnone htorn
  refine ⟨complaint, ?_⟩
  rw [faultResponse_outcome hforeseen hreport, hstandIns]
  exact jsonResponse_outcome_of_complaint hwritten hcomplaint _

/-- What a failure is answered by is a report of it. -/
theorem write_of_faultResponse
    (h : (faultResponse endpoint fault standIns).outcome = .ok response) :
    ∃ report, Report.ofFault fault = .ok report ∧
      report.toWeb.write .compact true = .ok response.body := by
  cases fault with
  | internal kind message => simp [faultResponse] at h
  | wordless kind reason => simp [faultResponse] at h
  | problem _ | invalidRequest _ =>
      simp only [faultResponse, Run.outcome_bind, Run.outcome_log, Run.outcome_ofExcept,
        Except.bind] at h
      split at h
      · simp at h
      · next report hreport => exact ⟨report, hreport, write_of_jsonResponse h⟩

/-- The response to an expression, by the outcome of the operation. Lone surrogates have
stand-ins. -/
def responseTo (endpoint : Endpoint) (outcome : Except Fault Answer)
    (standIns : Option Text.Surrogate.Block := none) : Run Response :=
  match outcome with
  | .ok answer => jsonResponse 200 (.obj (("status", .str "ok") :: answer.members)) standIns
  | .error fault => faultResponse endpoint fault standIns

/-- Bytes that cannot be read are answered like a failure. -/
theorem run_outcome_of_unreadable {error : Json.ReadError}
    (h : Body.read request.body = .error error) :
    (run endpoint request operation).outcome =
      (faultResponse endpoint (Body.unreadable error)).outcome := by
  rw [run, h]

/-- The response to a body that was read is that to the outcome of the operation for its expression,
if it has one. -/
theorem run_outcome_of_read {body : Body} (h : Body.read request.body = .ok body) :
    (run endpoint request operation).outcome =
      (responseTo endpoint (body.expression.bind fun text => (operation text).outcome)
        body.standIns).outcome := by
  have hoperation : Run.outcome (Run.ofExcept body.expression >>= operation) =
      body.expression.bind fun text => (operation text).outcome := by
    rw [Run.outcome_bind, Run.outcome_ofExcept]
  rw [← hoperation, run, h]
  simp only [Run.outcome, ExceptT.run_mk, Traced.value_bind]
  cases (ExceptT.run (Run.ofExcept body.expression >>= operation)).value <;> rfl

/-- The response to a posted expression is that to the outcome of the operation. -/
theorem run_outcome (h : Body.read request.body = .ok { data := expressionObject text }) :
    (run endpoint request operation).outcome =
      (responseTo endpoint (operation text).outcome).outcome := by
  rw [run_outcome_of_read h, Body.expression_object]
  rfl

/-- A posted request reaches the endpoint, and the endpoint's response is sent, with one header more
for a request from another origin. -/
theorem respond_outcome (server : Server) (settings : Settings) (h : request.IsPostTo endpoint)
    (hmethod : endpoint.methods.contains "POST" = true) :
    ∃ further, (server.respond settings request).outcome =
      (server.answer settings request endpoint).outcome.map fun response =>
        { response with headers := response.headers ++ further } := by
  have hat : Endpoint.at? request.path = some endpoint := by
    rw [h.path]
    cases endpoint <;> decide
  have hroute : server.route settings request = server.answer settings request endpoint := by
    simp only [route, hat, h.method, hmethod, if_true]
  have hpreflight : Origin.isPreflight request = false := by
    simp [Origin.isPreflight, h.method]
  rw [respond]
  split
  · refine ⟨[], ?_⟩
    rw [hroute]
    cases (server.answer settings request endpoint).outcome <;> simp [Except.map]
  · refine ⟨[(Origin.allowOrigin, "*")], ?_⟩
    rw [hpreflight, hroute]
    simp only [Bool.false_eq_true, if_false, Run.outcome_map]
    rfl

/-- A posted expression reaches the endpoint, and the endpoint's response is sent with its status
and its body. -/
theorem exists_respond_outcome (h : request.Posts endpoint text)
    (hmethod : endpoint.methods.contains "POST" = true)
    (hanswer : (server.answer settings request endpoint).outcome = .ok response) :
    ∃ headers, (server.respond settings request).outcome =
      .ok ⟨response.status, headers, response.body⟩ := by
  have hpost : request.IsPostTo endpoint := ⟨h.method, h.path⟩
  obtain ⟨further, hrespond⟩ := respond_outcome server settings hpost hmethod
  rw [hanswer] at hrespond
  exact ⟨_, hrespond⟩

end Server

end Web

end Calculator
