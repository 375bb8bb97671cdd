import Calculator.Proofs.Service.Mapping
import Calculator.Proofs.Tool.Dispatch
import Calculator.Proofs.Web.Posting

/-!
# All surfaces agree

An expression can be handed to the library, to an engine, to the expression capability, to the tool
server and to the web server. Under settings from an environment all of them come to the same
outcome: the engine and the capability to the same answer or failure, and the servers to the same
answer or report, written as strict JSON. A value that is not finite is written by its name, and
what is wrong with an expression is the caller's fault, what is wrong with the settings the
server's.

There is one exception. A problem with the settings quotes the value of a variable, and in this
value there may be lone surrogates. The tool server escapes them; the web server cannot encode the
same report, and fails.

## Main definitions

* `Operation`: conversion and evaluation, as each surface calls them.
* `WrittenAs`: the JSON of a value.
* `Operation.Calls`, `Operation.Responds`, `Operation.Breaks`: what the servers do.
* `Operation.Answers`, `Operation.Refuses`: the surfaces give an answer, or report a problem.

## Main results

* `Operation.answers_of_outcome`, `Operation.refuses_of_outcome`: the two kinds of outcomes.
* `Operation.exists_refuses`: there is no third kind, if JSON can write the length limit.
* `surfaces_agree`: **where all surfaces agree** with the library, for every text.
-/

namespace Calculator

/-- What can be asked for an expression. -/
inductive Operation where
  /-- The postfix form. -/
  | conversion
  /-- The value. -/
  | evaluation
  deriving DecidableEq, Repr

/-- The JSON of a value: the float itself if it is finite, and a name otherwise. -/
inductive WrittenAs (x : Float) : Json → Prop where
  /-- The value is finite. -/
  | number (h : Decimal.isFinite x = true) : WrittenAs x (.float x)
  /-- The value is positive infinity. -/
  | infinity (h : x.toBits = 0x7FF0000000000000) : WrittenAs x (.str "inf")
  /-- The value is negative infinity. -/
  | negativeInfinity (h : x.toBits = 0xFFF0000000000000) : WrittenAs x (.str "-inf")
  /-- The value is no number. -/
  | nan (h : Decimal.isFinite x = false) (hpositive : x.toBits ≠ 0x7FF0000000000000)
      (hnegative : x.toBits ≠ 0xFFF0000000000000) : WrittenAs x (.str "nan")

/-- An answer holds the JSON of the value. -/
theorem writtenAs_valueJson (x : Float) : WrittenAs x (Arithmetic.valueJson x) := by
  rw [Arithmetic.valueJson]
  split
  · next hfinite => exact .number hfinite
  · next hfinite =>
    rw [Decimal.text, if_neg hfinite]
    split
    · next hbits => exact .infinity (by simpa using hbits)
    · next hpositive =>
      split
      · next hbits => exact .negativeInfinity (by simpa using hbits)
      · next hnegative =>
        exact .nan (by simpa using hfinite) (by simpa using hpositive) (by simpa using hnegative)

/-- The JSON of a value can be written anywhere. -/
theorem WrittenAs.isWritable {x : Float} {json : Json} (h : WrittenAs x json) :
    json.IsWritable := by
  cases h with
  | number hfinite => exact Json.isWritable_float hfinite
  | infinity _ => exact Json.isWritable_str _
  | negativeInfinity _ => exact Json.isWritable_str _
  | nan _ _ _ => exact Json.isWritable_str _

/-! ### The capability -/

/-- The capability answers a call if the arguments have a text. -/
theorem Capability.expression_outcome (settings : Settings) (tool : String) (arguments : Json) :
    (Capability.expression.handle settings tool arguments).outcome =
      (Run.argumentText arguments).bind fun _ =>
        (Arithmetic.answer settings tool arguments).outcome.mapError Fault.worded := by
  have htexts (text : String) : Run.argumentText (.str text) = .ok (Run.cutOff text) := rfl
  rw [expression, Run.outcome_timed, List.mapM_cons, List.mapM_cons, List.mapM_cons, List.mapM_nil,
    htexts, htexts]
  cases Run.argumentText arguments <;> rfl

/-- A refusal has a message. -/
theorem Refusal.worded_eq {settings : Settings} {text : String} {fault : Fault}
    (h : Refusal settings text fault) : fault.worded = fault := by
  cases h with
  | unlimited herror => rename_i error; cases error <;> rfl
  | tooLong hlimit => rfl
  | tokens htokens => rfl

namespace Operation

/-! ### The surfaces -/

/-- The answer of the library. -/
def outcome (settings : Settings) (text : String) : Operation → Except Fault Answer
  | .conversion => (toPostfixText settings text).outcome.map fun listing => ⟨.listing, .str listing⟩
  | .evaluation =>
    (evaluate settings text).outcome.map fun x => ⟨.value, Arithmetic.valueJson x⟩

/-- The value of a text is answered by its JSON, and failures stay what they are. -/
theorem outcome_evaluation {settings : Settings} {text : String} {result : Except Fault Float}
    (h : (evaluate settings text).outcome = result) :
    outcome settings text .evaluation =
      result.map fun x => ⟨.value, Arithmetic.valueJson x⟩ := by
  rw [outcome, h]

/-- The postfix form of a text is answered as a text, and failures stay what they are. -/
theorem outcome_conversion {settings : Settings} {text : String} {result : Except Fault String}
    (h : (toPostfixText settings text).outcome = result) :
    outcome settings text .conversion = result.map fun listing => ⟨.listing, .str listing⟩ := by
  rw [outcome, h]

/-- A function of the result fails if the result does. -/
private theorem eq_error_of_map {ε α β : Type} {result : Except ε α} {f : α → β} {error : ε}
    (h : result.map f = .error error) : result = .error error := by
  cases result with
  | error reason => exact congrArg Except.error (Except.error.inj h)
  | ok value => simp [Except.map] at h

/-- What an operation refuses is refused for one of the three reasons. -/
theorem refusal_of_outcome {operation : Operation} {settings : Settings} {text : String}
    {fault : Fault} (h : operation.outcome settings text = .error fault) :
    Refusal settings text fault := by
  cases operation with
  | conversion => exact refusal_of_toPostfixText (eq_error_of_map h)
  | evaluation => exact refusal_of_evaluate (eq_error_of_map h)

/-- The operation of an engine. -/
def ofEngine (engine : Engine) (settings : Settings) (text : String) : Operation → Run Answer
  | .conversion => engine.toPostfix settings text
  | .evaluation => engine.evaluate settings text

/-- The tool for an operation. -/
def tool : Operation → String
  | .conversion => "expr_to_postfix"
  | .evaluation => "expr_evaluate"

/-- What the result of an operation is called. -/
def resultName : Operation → String
  | .conversion => "postfix"
  | .evaluation => "value"

/-- The kind of the answer of an operation. -/
def kind : Operation → Answer.Kind
  | .conversion => .listing
  | .evaluation => .value

/-- The endpoint for an operation. -/
def endpoint : Operation → Web.Endpoint
  | .conversion => .conversion
  | .evaluation => .evaluation

end Operation

/-- The request that posts an expression as JSON. -/
def Web.Request.posting (operation : Operation) (text : String) : Web.Request where
  method := "POST"
  path := operation.endpoint.path
  body := ((expressionObject text).render .compact).toUTF8.toList

/-- A request that posts an expression posts it to the endpoint for the operation. -/
theorem Web.Request.posts_posting (operation : Operation) (text : String) :
    (posting operation text).Posts operation.endpoint text :=
  ⟨rfl, rfl, Web.Body.read_render (Or.inl rfl) text⟩

namespace Operation

variable {operation : Operation} {settings : Settings} {text : String}

/-- The capability's conversion answers as the library does. -/
theorem postfixAnswer_outcome (settings : Settings) (text : String) :
    (Arithmetic.postfixAnswer settings text).outcome = outcome settings text .conversion := by
  rw [Arithmetic.postfixAnswer, Run.outcome_bind, outcome]
  cases (toPostfixText settings text).outcome <;> rfl

/-- The capability's evaluation answers as the library does. -/
theorem valueAnswer_outcome (settings : Settings) (text : String) :
    (Arithmetic.valueAnswer settings text).outcome = outcome settings text .evaluation := by
  simp only [Arithmetic.valueAnswer, Run.outcome_bind, Run.outcome_log, outcome]
  cases (evaluate settings text).outcome <;> rfl

/-- A new engine answers as the library does. -/
theorem ofEngine_outcome :
    (operation.ofEngine Engine.make.value settings text).outcome =
      operation.outcome settings text := by
  cases operation
  · exact postfixAnswer_outcome settings text
  · exact valueAnswer_outcome settings text

/-- The capability answers as the library does. -/
theorem handle_outcome :
    (Capability.expression.handle settings operation.tool (expressionObject text)).outcome =
      operation.outcome settings text := by
  have hargument : Arithmetic.expressionArgument (expressionObject text) = .ok text := rfl
  have hanswer : (Arithmetic.answer settings operation.tool (expressionObject text)).outcome =
      operation.outcome settings text := by
    rw [Arithmetic.answer, hargument]
    cases operation
    · exact postfixAnswer_outcome settings text
    · exact valueAnswer_outcome settings text
  have htext : Run.argumentText (expressionObject text) =
      .ok (Run.cutOff (expressionObject text).display) := rfl
  rw [Capability.expression_outcome, htext, hanswer]
  cases houtcome : operation.outcome settings text with
  | ok answer => rfl
  | error fault => exact congrArg Except.error (refusal_of_outcome houtcome).worded_eq

/-- Wherever the expression capability is registered, a call of its tool is answered for the
library's outcome. -/
theorem call_outcome {history : List Registry.Action}
    (h : (Registry.after history).capability? Arithmetic.capabilityName = some .expression) :
    (ToolServer.call (Registry.after history) settings operation.tool
      (expressionObject text)).outcome =
      ToolServer.answered (operation.outcome settings text) := by
  have howned : (Registry.after history).Owns .expression operation.tool := by
    refine ⟨h, ?_⟩
    cases operation
    · exact ⟨_, List.mem_cons_self, rfl⟩
    · exact ⟨_, List.mem_cons_of_mem _ List.mem_cons_self, rfl⟩
  obtain ⟨tool, hroute⟩ := (Registry.coherent_after history).owns_iff.mp howned
  have hping : operation.tool ≠ ToolServer.ping.name := by cases operation <;> decide
  have hgiven : ToolServer.given (expressionObject text) = expressionObject text := rfl
  rw [ToolServer.call_routed_outcome hping hroute, ToolServer.registry_call_outcome hroute, hgiven,
    handle_outcome]

/-- The expression capability is registered once a registry was made ready. -/
example : (Registry.after [.prepare]).capability? Arithmetic.capabilityName = some .expression :=
  rfl

/-- The endpoints for operations take what is posted. -/
theorem takesPost_endpoint (operation : Operation) :
    operation.endpoint.methods.contains "POST" = true := by
  cases operation <;> decide

/-- The endpoint runs the operation of the engine. -/
theorem answer_endpoint (operation : Operation) (settings : Settings) (request : Web.Request) :
    (⟨Engine.make.value⟩ : Web.Server).answer settings request operation.endpoint =
      Web.Server.run operation.endpoint request
        (operation.ofEngine Engine.make.value settings ·) := by
  cases operation <;> rfl

/-- The endpoint answers a posted expression for the library's outcome. -/
theorem endpoint_outcome {request : Web.Request} (h : request.Posts operation.endpoint text) :
    ((⟨Engine.make.value⟩ : Web.Server).answer settings request operation.endpoint).outcome =
      (Web.Server.responseTo operation.endpoint (operation.outcome settings text)).outcome := by
  rw [answer_endpoint, Web.Server.run_outcome h.body, ofEngine_outcome]

/-! ### Agreement -/

/-- A call of the tool is answered by one text of strict JSON, wherever the expression capability is
registered. -/
def Calls (operation : Operation) (settings : Settings) (text written : String) : Prop :=
  Json.IsText written ∧ ∀ history,
    (Registry.after history).capability? Arithmetic.capabilityName = some .expression →
      (ToolServer.call (Registry.after history) settings operation.tool
        (expressionObject text)).outcome = .ok [written]

/-- A posted expression is responded to with a status and strict JSON, however it is posted. -/
def Responds (operation : Operation) (settings : Settings) (text : String) (status : Nat)
    (body : String) : Prop :=
  Json.IsText body ∧ ∀ request : Web.Request, request.Posts operation.endpoint text →
    ∃ headers, ((⟨Engine.make.value⟩ : Web.Server).respond settings request).outcome =
      .ok ⟨status, headers, body⟩

/-- The response to a posted expression cannot be encoded, however it is posted. -/
def Breaks (operation : Operation) (settings : Settings) (text : String) : Prop :=
  ∃ complaint, ∀ request : Web.Request, request.Posts operation.endpoint text →
    ((⟨Engine.make.value⟩ : Web.Server).respond settings request).outcome =
      .error (.internal "UnicodeEncodeError" complaint)

/-- All surfaces give the result. -/
structure Answers (operation : Operation) (settings : Settings) (text : String) (result : Json) :
    Prop where
  /-- A new engine. -/
  engine : (operation.ofEngine Engine.make.value settings text).outcome =
    .ok ⟨operation.kind, result⟩
  /-- The expression capability. -/
  capability : (Capability.expression.handle settings operation.tool
    (expressionObject text)).outcome = .ok ⟨operation.kind, result⟩
  /-- The tool server. -/
  called : operation.Calls settings text (Json.render .spaced
    (.obj [("kind", .str operation.resultName), ("result", result)]))
  /-- The web server. -/
  posted : operation.Responds settings text 200 (Json.render .compact
    (.obj [("status", .str "ok"), ("kind", .str operation.resultName), ("result", result)]))

/-- All surfaces refuse the text for the problem. Both servers tell its code, its message, its
details and its hint, except that the web server fails if the problem quotes lone surrogates. The
problem is one of the expression, which is the caller's, or one of the settings, which is the
server's. -/
structure Refuses (operation : Operation) (settings : Settings) (text : String)
    (problem : Problem) : Prop where
  /-- A new engine. -/
  engine : (operation.ofEngine Engine.make.value settings text).outcome =
    .error (.problem problem)
  /-- The expression capability. -/
  capability : (Capability.expression.handle settings operation.tool
    (expressionObject text)).outcome = .error (.problem problem)
  /-- The servers. -/
  reported : ∃ hint, HintFor problem.code (Table.get? problem.details "reason") hint ∧
    operation.Calls settings text (Json.render (Json.Layout.spaced.withStandIns problem.standIns)
      (.obj [("status", .str "error"), ("error_code", .str problem.code),
        ("message", .str problem.message),
        ("details", if problem.details.isEmpty then .null else .obj problem.details),
        ("recovery_strategy", .str hint)])) ∧
    (problem.IsTorn → operation.Breaks settings text) ∧
    (¬ problem.IsTorn → ∃ status, operation.Responds settings text status (Json.render .compact
        (.obj [("status", .str "error"), ("error", .obj [("code", .str problem.code),
          ("message", .str problem.message),
          ("details", if problem.details.isEmpty then .null else .obj problem.details),
          ("recovery", .str hint)])])) ∧
      (problem.kind.refines .expression = true ∧ status = 400 ∨
        problem.kind = .configuration ∧ status = 500))

/-- A text that the tool server answers with is what a call of the tool is answered with. -/
private theorem calls_of_answered {written : String}
    (h : ToolServer.answered (operation.outcome settings text) = .ok [written])
    (htext : Json.IsText written) : operation.Calls settings text written :=
  ⟨htext, fun _ hregistered => (call_outcome hregistered).trans h⟩

/-- The response to the outcome of an operation is the response to a posted expression. -/
private theorem responds_of_responseTo {status : Nat} {body : String}
    (h : (Web.Server.responseTo operation.endpoint (operation.outcome settings text)).outcome =
      .ok (.json status body)) (htext : Json.IsText body) :
    operation.Responds settings text status body := by
  refine ⟨htext, fun request hposts => ?_⟩
  have hanswer : ((⟨Engine.make.value⟩ : Web.Server).answer settings request
      operation.endpoint).outcome = .ok (.json status body) := by
    rw [endpoint_outcome hposts, h]
  exact Web.Server.exists_respond_outcome hposts operation.takesPost_endpoint hanswer

/-- The failure to respond to the outcome of an operation is the failure to respond. -/
private theorem breaks_of_responseTo {complaint : String}
    (h : (Web.Server.responseTo operation.endpoint (operation.outcome settings text)).outcome =
      .error (.internal "UnicodeEncodeError" complaint)) :
    operation.Breaks settings text := by
  refine ⟨complaint, fun request hposts => ?_⟩
  have hpost : request.IsPostTo operation.endpoint := ⟨hposts.method, hposts.path⟩
  obtain ⟨further, hrespond⟩ :=
    Web.Server.respond_outcome ⟨Engine.make.value⟩ settings hpost operation.takesPost_endpoint
  rw [hrespond, endpoint_outcome hposts, h]
  rfl

/-- A result of the library that can be written is given by all surfaces. -/
theorem answers_of_outcome {result : Json}
    (h : operation.outcome settings text = .ok ⟨operation.kind, result⟩)
    (hwritable : result.IsWritable) : operation.Answers settings text result := by
  have hname : operation.kind.name = operation.resultName := by cases operation <;> rfl
  have htool : (Json.obj [("kind", .str operation.resultName), ("result", result)]).obstacle? true
      Json.maxDepth = none := by
    simp [Json.maxDepth, hwritable _]
  have hweb : (Json.obj [("status", .str "ok"), ("kind", .str operation.resultName),
      ("result", result)]).obstacle? true Json.maxDepth = none := by
    simp [Json.maxDepth, hwritable _]
  refine ⟨ofEngine_outcome.trans h, handle_outcome.trans h, calls_of_answered ?_
    (Json.isText_render Json.Layout.separates_spaced htool), responds_of_responseTo ?_
    (Json.isText_render Json.Layout.separates_compact hweb)⟩
  · rw [h]
    simp only [ToolServer.answered, Except.bind, ToolServer.encode, Answer.members, hname,
      Json.write_eq_ok_iff.mpr ⟨htool, rfl⟩]
  · rw [h]
    simp only [Web.Server.responseTo, Answer.members, hname]
    exact Web.Server.jsonResponse_outcome hweb rfl 200

/-- The tool server tells of a problem that it can report. -/
private theorem answered_of_isReportable {problem : Problem} {report : Report}
    (hreport : Report.ofFault (.problem problem) = .ok report)
    (hwritten : report.toTool.obstacle? true Json.maxDepth = none) :
    ToolServer.answered (.error (.problem problem)) = .ok [report.toTool.render
      (Json.Layout.spaced.withStandIns ((Fault.problem problem).standIns none))] := by
  simp only [ToolServer.answered, Except.bind, ToolServer.encodeFault, hreport,
    Json.write_eq_ok_iff.mpr ⟨hwritten, rfl⟩, Except.map]

/-- A refusal of the library is reported by all surfaces. -/
theorem refuses_of_outcome {problem : Problem}
    (h : operation.outcome settings text = .error (.problem problem))
    (hrefusal : problem.IsRefusal) : operation.Refuses settings text problem := by
  obtain ⟨report, hreport, htells, hweb, hsent⟩ :=
    Web.Server.faultResponse_of_isRefusal operation.endpoint hrefusal
  obtain ⟨same, hsame, -, htool⟩ := (hrefusal.reportable .tools).exists_report
  obtain rfl := Except.ok.inj (hsame.symm.trans hreport)
  have hresponse : Web.Server.responseTo operation.endpoint (operation.outcome settings text) =
      Web.Server.faultResponse operation.endpoint (.problem problem) := by
    rw [h]
    rfl
  have hlayout := hrefusal.standIns
  refine ⟨ofEngine_outcome.trans h, handle_outcome.trans h, same.hint, .of_recoveryHint htells.hint,
    ?_, fun hbreaks => ?_, fun hwhole => ?_⟩
  · have hcalls := calls_of_answered (h ▸ answered_of_isReportable hreport htool)
      (Json.isText_render (Json.Layout.separates_spaced.withStandIns _) htool)
    rw [hlayout, htells.shape_eq .tools] at hcalls
    exact hcalls
  · obtain ⟨complaint, hcomplaint⟩ :=
      Web.Server.faultResponse_of_isTorn operation.endpoint hrefusal hbreaks none
    exact breaks_of_responseTo (hresponse ▸ hcomplaint)
  · have hresponds := responds_of_responseTo (hresponse ▸ hsent hwhole)
      (Json.isText_render Json.Layout.separates_compact hweb)
    have hobject : same.toWeb = _ := htells.shape_eq .web
    rw [hobject] at hresponds
    refine ⟨_, hresponds, ?_⟩
    rcases hrefusal.kind with hkind | hkind
    · exact Or.inl ⟨hkind, Problem.status_of_refines hkind⟩
    · exact Or.inr ⟨hkind, Problem.status_of_configuration hkind⟩

/-- All surfaces refuse what the library refuses. -/
theorem exists_refuses (hnumber : settings.LimitIsNumber) (hlength : text.length ≤ Text.maxLength)
    {fault : Fault} (h : operation.outcome settings text = .error fault) :
    ∃ problem, fault = .problem problem ∧ operation.Refuses settings text problem := by
  obtain ⟨problem, rfl, hproblem⟩ := (refusal_of_outcome h).exists_problem hnumber hlength
  exact ⟨problem, rfl, refuses_of_outcome h hproblem⟩

end Operation

/-! ### Agreement with the library -/

/-- The outcome of an evaluation that does not fail for what is wrong with the expression. -/
theorem tryEvaluate_outcome (settings : Settings) (text : String) :
    (tryEvaluate settings text).outcome = Evaluated.ofResult (evaluate settings text).outcome := rfl

/-- **Where all surfaces agree.** Under settings from an environment, every surface carries what the
library makes of a text: the value, by its name if it is not finite, or the postfix form, or the one
problem, with an expression or with the settings, in one report. The only exception is a problem
that quotes lone surrogates, for which the web server has no response. An evaluation that does not
fail for what is wrong with the expression keeps a problem with it and fails for one with the
settings. And a text that was written as JSON, in either layout, is posted to the web server as it
is. -/
theorem surfaces_agree (environment : Table Variable) (text : String)
    (hlength : text.length ≤ Text.maxLength) :
    let settings : Settings := { environment }
    (match (evaluate settings text).outcome with
      | .ok x =>
        (∃ json, WrittenAs x json ∧ Operation.evaluation.Answers settings text json) ∧
          (tryEvaluate settings text).outcome = .ok (.value x)
      | .error fault => ∃ problem, fault = .problem problem ∧
        Operation.evaluation.Refuses settings text problem ∧
          (tryEvaluate settings text).outcome =
            if problem.kind.refines .expression then .ok (.rejected problem)
            else .error (.problem problem)) ∧
    (match (toPostfixText settings text).outcome with
      | .ok listing => Operation.conversion.Answers settings text (.str listing)
      | .error fault => ∃ problem, fault = .problem problem ∧
        Operation.conversion.Refuses settings text problem) ∧
    ∀ layout, layout = Json.Layout.compact ∨ layout = Json.Layout.spaced →
      Web.Body.read ((expressionObject text).render layout).toUTF8.toList =
        .ok { data := expressionObject text } := by
  intro settings
  have hnumber : settings.LimitIsNumber := Settings.limitIsNumber_of_environment environment
  refine ⟨?_, ?_, fun layout hlayout => Web.Body.read_render hlayout text⟩
  · rw [tryEvaluate_outcome]
    cases hvalue : (evaluate settings text).outcome with
    | ok x =>
        have hwritten := writtenAs_valueJson x
        have hanswers := Operation.answers_of_outcome (Operation.outcome_evaluation hvalue)
          hwritten.isWritable
        exact ⟨⟨_, hwritten, hanswers⟩, rfl⟩
    | error fault =>
        obtain ⟨problem, rfl, hrefuses⟩ :=
          Operation.exists_refuses hnumber hlength (Operation.outcome_evaluation hvalue)
        exact ⟨problem, rfl, hrefuses, rfl⟩
  · cases hlisting : (toPostfixText settings text).outcome with
    | ok listing =>
        exact Operation.answers_of_outcome (Operation.outcome_conversion hlisting)
          (Json.isWritable_str listing)
    | error fault =>
        exact Operation.exists_refuses hnumber hlength (Operation.outcome_conversion hlisting)

/-- All surfaces agree on `1+2` in an empty environment. -/
theorem surfaces_agree_on_sum :
    ∃ x json, (evaluate {} "1+2").outcome = .ok x ∧ WrittenAs x json ∧
      Operation.evaluation.Answers {} "1+2" json := by
  have hlength : "1+2".length ≤ Text.maxLength := by decide
  obtain ⟨hagree, -, -⟩ := surfaces_agree [] "1+2" hlength
  have hvalue : ∃ x, (evaluate {} "1+2").outcome = .ok x := ⟨_, rfl⟩
  obtain ⟨x, hx⟩ := hvalue
  simp only [hx] at hagree
  obtain ⟨⟨json, hwritten, hanswers⟩, -⟩ := hagree
  exact ⟨x, json, hx, hwritten, hanswers⟩

/-- If the length limit is the byte `FF`, the tool server reports what is wrong with the settings,
and the web server does not respond to any posted `1`. -/
theorem surfaces_disagree :
    let settings : Settings := .undecodable
    ∃ problem, (evaluate settings "1").outcome = .error (.problem problem) ∧
      problem.code = "CONFIGURATION_ERROR" ∧
      (∃ written, Operation.evaluation.Calls settings "1" written) ∧
      ∀ status body, ¬ Operation.evaluation.Responds settings "1" status body := by
  intro settings
  have houtcome : Operation.evaluation.outcome settings "1" = .error (.problem
      (SettingsError.notInteger "RPNCALC_MAX_EXPRESSION_LENGTH" .undecodable).toProblem) := rfl
  have hnumber : settings.LimitIsNumber := Settings.limitIsNumber_of_environment _
  obtain ⟨problem, hproblem, hrefuses⟩ :=
    Operation.exists_refuses hnumber (by decide) houtcome
  obtain rfl := Fault.problem.inj hproblem
  obtain ⟨hint, -, hcalls, hbreaks, -⟩ := hrefuses.reported
  obtain ⟨complaint, hfails⟩ := hbreaks (Variable.isTorn_undecodable _)
  refine ⟨_, rfl, rfl, ⟨_, hcalls⟩, fun status body hresponds => ?_⟩
  have hposts := Web.Request.posts_posting .evaluation "1"
  obtain ⟨headers, hresponse⟩ := hresponds.2 _ hposts
  rw [hfails _ hposts] at hresponse
  cases hresponse

end Calculator
