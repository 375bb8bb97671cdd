import Calculator.Proofs.Journal.Call
import Calculator.Proofs.Json.Grammar
import Calculator.Proofs.Service.Mapping
import Calculator.Proofs.Tool.Dispatch

/-!
# Contained failures

Whatever a capability does, a call of its tool should be answered by one text of strict JSON: the
answer if it can be written, and otherwise the report of a failure. An answer that cannot be written
is reported like any other failure. A report that cannot be made or written is not, and its failure
leaves the server. There are three such reports: of a failure that fails in its turn to tell a
message, of a problem whose reason is a list or an object where a hint is looked up by it, and of a
problem with details that cannot be written, since there is a float in them that is not finite, an
integer with too many digits, or lists and objects that are nested too deep.

Before anything else a call is logged with its arguments. If these are nested too deep for a line,
the logger fails, and there is no call.

## Main definitions

* `ToolServer.Reported`, `ToolServer.Tells`: what a text tells of a failure, and of the outcome of a
  handler.
* `ToolServer.Escapes`: the failure to report a failure.
* `ToolServer.handled`: what a call comes to if it is logged.
* `ToolServer.TooDeep`: a logger fails for the arguments of a call.

## Main results

* `ToolServer.encodeFault_of_escapes`, `ToolServer.exists_reported`: reports that cannot be written,
  and that can.
* `ToolServer.contained_iff`: which outcomes are answered.
* `ToolServer.write_called`: when a call is logged.
* `ToolServer.contained_after`: **which failures of capabilities are contained**, after every
  history.
-/

namespace Calculator

/-- The details of a failure as they are written: `null` if there are none. -/
def Fault.detailsJson (fault : Fault) : Json :=
  if fault.details.isEmpty then .null else .obj fault.details

namespace ToolServer

/-! ### What a text tells -/

/-- A text tells of a failure: its code, its message, its details and the hint that belongs to
it. -/
def Reported (fault : Fault) (text : String) : Prop :=
  ∃ hint, HintFor fault.code fault.reason? hint ∧
    text = Json.render (Json.Layout.spaced.withStandIns (fault.standIns none))
      (.obj [("status", .str "error"), ("error_code", .str fault.code),
        ("message", .str fault.message), ("details", fault.detailsJson),
        ("recovery_strategy", .str hint)])

/-- The object that tells of an answer. -/
def answerObject (answer : Answer) : Json :=
  .obj [("kind", .str answer.kind.name), ("result", answer.result)]

/-- What a text tells of the outcome of a handler: the answer if it can be written, the obstacle if
there is one, and the failure if there is no answer. -/
inductive Tells : Except Fault Answer → String → Prop
  | answer {answer : Answer} (h : (answerObject answer).obstacle? true Json.maxDepth = none) :
      Tells (.ok answer) ((answerObject answer).render .spaced)
  | unwritable {answer : Answer} {obstacle : Obstacle} {text : String}
      (h : (answerObject answer).obstacle? true Json.maxDepth = some obstacle)
      (hreported : Reported (obstacle.toFault Json.encoding) text) : Tells (.ok answer) text
  | failure {fault : Fault} {text : String} (hreported : Reported fault text) :
      Tells (.error fault) text

/-- An outcome is contained if it is told by exactly one text, which is strict JSON. -/
def Contained (outcome : Except Fault Answer) (reply : Except Fault (List String)) : Prop :=
  ∃ text, reply = .ok [text] ∧ Json.IsText text ∧ Tells outcome text

/-- What a failure fails for to be reported. -/
inductive Escapes (fault : Fault) : Fault → Prop
  | wordless {reason : Fault} (h : fault.IsWordless reason) : Escapes fault reason
  | unhashable {reason : Json} (h : fault.HasUnhashableReason reason) :
      Escapes fault (.internal "TypeError" ("unhashable type: '" ++ reason.typeName ++ "'"))
  | unwritable {obstacle : Obstacle} (hworded : ∀ reason, ¬ fault.IsWordless reason)
      (hhashable : ∀ reason, ¬ fault.HasUnhashableReason reason)
      (h : fault.detailsJson.obstacle? true (Json.maxDepth - 1) = some obstacle) :
      Escapes fault (obstacle.toFault Json.encoding)

/-! ### Reports -/

section

variable {fault escaped : Fault} {outcome : Except Fault Answer}

/-- There is a hint unless a hint is looked up by a list or an object. -/
private theorem exists_hint (h : ∀ reason, ¬ fault.HasUnhashableReason reason) :
    ∃ hint, recoveryHint fault.code fault.reason? = .ok hint := by
  cases hhint : recoveryHint fault.code fault.reason? with
  | ok hint => exact ⟨hint, rfl⟩
  | error reason =>
      obtain ⟨hcode, value, hreason, hshape, -⟩ := recoveryHint_eq_error_iff.mp hhint
      exact absurd (Fault.hasUnhashableReason_iff.mpr ⟨hcode, hreason, hshape⟩) (h value)

/-- With a hint, a failure with a message is written as the object that tells of it. -/
private theorem encodeFault_eq (hworded : ∀ reason, ¬ fault.IsWordless reason) {hint : String}
    (hhint : recoveryHint fault.code fault.reason? = .ok hint) :
    encodeFault fault = Json.write (Json.Layout.spaced.withStandIns (fault.standIns none)) true
      (.obj [("status", .str "error"), ("error_code", .str fault.code),
        ("message", .str fault.message), ("details", fault.detailsJson),
        ("recovery_strategy", .str hint)]) := by
  rw [encodeFault, Report.ofFault_eq hworded, hhint]
  simp only [Except.map, Report.toTool, Report.detailsJson, Report.ofOption_detailsOf]
  rfl

/-- Only the details can be an obstacle to a report. -/
private theorem obstacle?_failure (code message : String) (details : Json) (hint : String) :
    (Json.obj [("status", .str "error"), ("error_code", .str code), ("message", .str message),
      ("details", details), ("recovery_strategy", .str hint)]).obstacle? true Json.maxDepth =
      details.obstacle? true (Json.maxDepth - 1) :=
  Service.tools.obstacle?_failureObject code message details hint

/-- **A report that cannot be made or written** fails for what escapes. -/
theorem encodeFault_of_escapes (h : Escapes fault escaped) :
    encodeFault fault = .error escaped := by
  cases h with
  | wordless h =>
      obtain ⟨kind, rfl⟩ := h
      rfl
  | @unhashable reason h =>
      obtain ⟨hcode, hreason, hshape⟩ := Fault.hasUnhashableReason_iff.mp h
      obtain ⟨problem, rfl, -⟩ := h
      have hworded (reason : Fault) : ¬ (Fault.problem problem).IsWordless reason := by
        rintro ⟨kind, heq⟩
        cases heq
      have hhint := recoveryHint_eq_error_iff.mpr ⟨hcode, reason, hreason, hshape, rfl⟩
      rw [encodeFault, Report.ofFault_eq hworded, hhint]
      rfl
  | unwritable hworded hhashable h =>
      obtain ⟨hint, hhint⟩ := exists_hint hhashable
      rw [encodeFault_eq hworded hhint]
      exact Json.write_of_obstacle ((obstacle?_failure _ _ _ _).trans h)

/-- **A failure that does not escape is reported** in strict JSON. -/
theorem exists_reported (h : ∀ escaped, ¬ Escapes fault escaped) :
    ∃ text, encodeFault fault = .ok text ∧ Json.IsText text ∧ Reported fault text := by
  have hworded : ∀ reason, ¬ fault.IsWordless reason := fun _ hreason => h _ (.wordless hreason)
  have hhashable : ∀ reason, ¬ fault.HasUnhashableReason reason :=
    fun _ hreason => h _ (.unhashable hreason)
  have hnone : fault.detailsJson.obstacle? true (Json.maxDepth - 1) = none := by
    rw [Option.eq_none_iff_forall_ne_some]
    exact fun obstacle hsome => h _ (.unwritable hworded hhashable hsome)
  obtain ⟨hint, hhint⟩ := exists_hint hhashable
  have hobstacle := (obstacle?_failure fault.code fault.message fault.detailsJson hint).trans hnone
  refine ⟨_, ?_, Json.isText_render (Json.Layout.separates_spaced.withStandIns _) hobstacle,
    hint, .of_recoveryHint hhint, rfl⟩
  rw [encodeFault_eq hworded hhint]
  exact Json.write_eq_ok_iff.mpr ⟨hobstacle, rfl⟩

/-- What cannot be written can be reported. -/
theorem not_escapes_toFault (obstacle : Obstacle) (activity : String) :
    ¬ Escapes (obstacle.toFault activity) escaped := by
  have hinternal (kind message : String) : ¬ Escapes (.internal kind message) escaped := by
    intro h
    cases h with
    | wordless h =>
        obtain ⟨kind, h⟩ := h
        cases h
    | unhashable h =>
        obtain ⟨problem, h, -⟩ := h
        cases h
    | unwritable _ _ h => cases h
  cases obstacle <;> exact hinternal _ _

/-! ### Answers -/

/-- An outcome with a failure is answered by the report of it. -/
theorem answered_error (fault : Fault) :
    answered (.error fault) = (encodeFault fault).map fun text => [text] := rfl

/-- An answer that cannot be written is answered by the report of the obstacle. -/
theorem answered_of_obstacle {answer : Answer} {obstacle : Obstacle}
    (h : (answerObject answer).obstacle? true Json.maxDepth = some obstacle) :
    answered (.ok answer) = answered (.error (obstacle.toFault Json.encoding)) := by
  have hwrite : encode (.obj answer.members) = .error (obstacle.toFault Json.encoding) :=
    Json.write_of_obstacle h
  simp only [answered, Except.bind, hwrite]

/-- **Which outcomes are contained**: all but the failures that escape. -/
theorem contained_iff :
    Contained outcome (answered outcome) ↔
      ∀ fault escaped, outcome = .error fault → ¬ Escapes fault escaped := by
  constructor
  · rintro ⟨text, hreply, -, -⟩ fault escaped rfl hescapes
    rw [answered_error, encodeFault_of_escapes hescapes] at hreply
    cases hreply
  · intro h
    cases outcome with
    | error fault =>
        obtain ⟨text, hencode, htext, hreported⟩ :=
          exists_reported fun escaped => h fault escaped rfl
        refine ⟨text, ?_, htext, .failure hreported⟩
        rw [answered_error, hencode]
        rfl
    | ok answer =>
        cases hobstacle : (answerObject answer).obstacle? true Json.maxDepth with
        | none =>
            have hwrite :
                encode (.obj answer.members) = .ok ((answerObject answer).render .spaced) :=
              Json.write_eq_ok_iff.mpr ⟨hobstacle, rfl⟩
            refine ⟨_, ?_, Json.isText_render Json.Layout.separates_spaced hobstacle,
              .answer hobstacle⟩
            simp only [answered, Except.bind, hwrite]
        | some obstacle =>
            obtain ⟨text, hencode, htext, hreported⟩ :=
              exists_reported fun escaped => not_escapes_toFault obstacle Json.encoding
            refine ⟨text, ?_, htext, .unwritable hobstacle hreported⟩
            rw [answered_of_obstacle hobstacle, answered_error, hencode]
            rfl

end

/-! ### Logged calls -/

/-- The event that a tool is called. -/
def calledEvent (tool : String) (arguments : Json) : Event :=
  ⟨.info, "Tool called", [("tool", .str tool), ("args", arguments)]⟩

/-- What a call comes to if it is logged. No logger fails for the other events of the server
(`exists_write_logFault`), and those of the registry and of a handler are part of what is contained.
-/
def handled (logger : Logger) (time : String) (registry : Registry) (settings : Settings)
    (tool : String) (arguments : Json) : Except Fault (List String) :=
  (logger.write time (calledEvent tool arguments)).bind fun _ =>
    (call registry settings tool arguments).outcome

/-- Every call begins with that event. -/
theorem head?_events_call (registry : Registry) (settings : Settings) (tool : String)
    (arguments : Json) :
    (ExceptT.run (call registry settings tool arguments)).events.head? =
      some (calledEvent tool arguments) := rfl

/-- A logger does not fail for texts that tell of a failed call. -/
private theorem exists_write_failed (logger : Logger) (time : String) (level : Level)
    (message : String) (fields : Table String) (hkeys : (Table.keys fields).Nodup)
    (hnames : ∀ key ∈ Table.keys fields, key ∈ ["tool", "error_code", "error"]) :
    ∃ line, logger.write time
      ⟨level, message, fields.map fun (key, text) => (key, .str text)⟩ = .ok line := by
  have hplain : ∀ key ∈ ["tool", "error_code", "error"],
      key ∉ ["self", "message", "level", Record.messageKey, sessionKey] ∧ key ∉ reservedKeys := by
    decide
  have hsame : Table.keys (fields.map fun (key, text) => (key, Json.str text)) =
      Table.keys fields := by
    simp [Table.keys]
  refine Logger.exists_write_of_texts logger time (hsame ▸ hkeys) ?_ ?_
  · intro key hkey
    rw [hsame] at hkey
    exact hplain key (hnames key hkey)
  · intro key value hfield
    obtain ⟨⟨_, text⟩, -, heq⟩ := List.mem_map.mp hfield
    obtain ⟨-, rfl⟩ := Prod.mk.inj heq
    exact ⟨text, rfl⟩

/-- What is reported when a call fails holds texts only, so no logger fails for it. -/
theorem exists_write_logFault (logger : Logger) (time tool : String) (fault : Fault) :
    ∀ event ∈ (logFault tool fault).events, ∃ line, logger.write time event = .ok line := by
  have hfailed (error : String) (event : Event)
      (h : event ∈
        [⟨.error, "Tool execution failed", [("tool", .str tool), ("error", .str error)]⟩]) :
      ∃ line, logger.write time event = .ok line := by
    obtain rfl := List.mem_singleton.mp h
    exact exists_write_failed logger time _ _ [("tool", tool), ("error", error)]
      (by simp [Table.keys]) (by simp [Table.keys])
  intro event h
  cases fault with
  | problem p =>
      obtain rfl := List.mem_singleton.mp h
      exact exists_write_failed logger time _ _
        [("tool", tool), ("error_code", p.code), ("error", p.message)]
        (by simp [Table.keys]) (by simp [Table.keys])
  | invalidRequest issues => exact hfailed _ event h
  | internal kind message => exact hfailed _ event h
  | wordless kind reason => cases h

/-- The arguments are nested too deep for a line of the logger. -/
def TooDeep (logger : Logger) (arguments : Json) : Prop :=
  logger.accepts .info = true ∧ arguments.obstacle? false logger.room = some .tooDeep

section

variable (logger : Logger) (time tool : String) (arguments : Json)

/-- The arguments are all that can be an obstacle to the line of a call. -/
theorem obstacle?_called :
    logger.obstacle? time (logger.record (calledEvent tool arguments)) =
      arguments.obstacle? false logger.room := by
  have hsession : (logger.record (calledEvent tool arguments)).get sessionKey =
      .str logger.session := rfl
  have hshown : Json.membersObstacle? false logger.room
      (logger.shown time (logger.record (calledEvent tool arguments))) =
        (arguments.obstacle? false logger.room).or none := by
    rw [Logger.shown]
    split
    · rw [Record.members, Record.sessionMember, hsession]
      split <;> rfl
    · rfl
  rw [Logger.obstacle?, hsession, hshown, Option.or_none]
  exact Option.none_or

/-- **When a call is logged**: the logger fails exactly for arguments that are nested too deep. -/
theorem write_called :
    (TooDeep logger arguments → ∃ activity, logger.write time (calledEvent tool arguments) =
      .error (Obstacle.tooDeep.toFault activity)) ∧
    (¬ TooDeep logger arguments → ∃ line, logger.write time (calledEvent tool arguments) =
      .ok line) := by
  have hself : "self" ∉ Table.keys (calledEvent tool arguments).fields := by
    simp [calledEvent, Table.keys]
  have hmessage : "message" ∉ Table.keys (calledEvent tool arguments).fields := by
    simp [calledEvent, Table.keys]
  have hlevel : "level" ∉ Table.keys (calledEvent tool arguments).fields := by
    simp [calledEvent, Table.keys]
  have hhides : Record.messageKey ∉ Table.keys (calledEvent tool arguments).fields := by
    simp [calledEvent, Table.keys, Record.messageKey]
  have hobstacle := obstacle?_called logger time tool arguments
  constructor
  · rintro ⟨haccepts, hdeep⟩
    obtain ⟨activity, hwrite⟩ := Logger.write_of_some logger time hself hmessage hlevel haccepts
      hhides (hobstacle.trans hdeep)
    exact ⟨activity, hwrite⟩
  · intro hshallow
    by_cases haccepts : logger.accepts (calledEvent tool arguments).level = true
    · cases hfound : arguments.obstacle? false logger.room with
      | none =>
          exact ⟨_, Logger.write_of_none logger time hself hmessage hlevel haccepts hhides
            (hobstacle.trans hfound)⟩
      | some obstacle =>
          obtain ⟨activity, hwrite⟩ := Logger.write_of_some logger time hself hmessage hlevel
            haccepts hhides (hobstacle.trans hfound)
          have hother : obstacle ≠ .tooDeep := by
            rintro rfl
            exact hshallow ⟨haccepts, hfound⟩
          exact ⟨none, by rw [hwrite, if_neg hother]⟩
    · exact ⟨none, Logger.write_of_not_accepts logger time hself hmessage hlevel haccepts⟩

end

/-! ### Every call -/

/-- **Which failures of capabilities are contained.** After every history, a call of a registered
tool other than `ping`, with any arguments and settings, runs the handler of the registered
capability whose tool it is, unless the arguments are nested too deep for the logger, which then
fails. The call is answered by one text of strict JSON that tells the outcome, the answer or a
failure, exactly if the handler does not fail with a failure that escapes. If it does, what escapes
leaves the server. -/
theorem contained_after (history : List Registry.Action) :
    let registry := Registry.after history
    ∀ tool ∈ registry.tools, tool.name ≠ ping.name →
      ∃ owner, registry.Owns owner tool.name ∧ tool ∈ owner.tools ∧
        ∀ logger time settings arguments,
          let outcome := (owner.handle settings tool.name (given arguments)).outcome
          let reply := handled logger time registry settings tool.name arguments
          (TooDeep logger arguments →
            ∃ activity, reply = .error (Obstacle.tooDeep.toFault activity)) ∧
          (¬ TooDeep logger arguments →
            (Contained outcome reply ↔
              ∀ fault escaped, outcome = .error fault → ¬ Escapes fault escaped) ∧
            ∀ fault escaped, outcome = .error fault → Escapes fault escaped →
              reply = .error escaped) := by
  intro registry tool htool hname
  have hcoherent : registry.Coherent := Registry.coherent_after history
  obtain ⟨owner, hroute⟩ := exists_route_of_mem_tools hcoherent htool
  obtain ⟨-, hmem, -⟩ := hcoherent.route_leads hroute
  refine ⟨owner, hcoherent.owns_iff.mpr ⟨tool, hroute⟩, hmem,
    fun logger time settings arguments => ?_⟩
  obtain ⟨hfails, hlogged⟩ := write_called logger time tool.name arguments
  refine ⟨fun hdeep => ?_, fun hshallow => ?_⟩
  · obtain ⟨activity, hwrite⟩ := hfails hdeep
    exact ⟨activity, by rw [handled, hwrite]; rfl⟩
  · obtain ⟨line, hwrite⟩ := hlogged hshallow
    have hreply : handled logger time registry settings tool.name arguments =
        answered (owner.handle settings tool.name (given arguments)).outcome := by
      rw [handled, hwrite]
      exact (call_routed_outcome hname hroute).trans
        (congrArg answered (registry_call_outcome hroute))
    simp only [hreply]
    refine ⟨contained_iff, fun fault escaped houtcome hescapes => ?_⟩
    rw [houtcome, answered_error, encodeFault_of_escapes hescapes]
    rfl

/-- A problem with details that can be written is contained. -/
theorem contained_after_problem :
    let problem := Problem.general "CUSTOM" "custom" [("values", .arr [.int 1, .null])]
    let probe : Capability := {
      name := "probe"
      description := ""
      tools := [⟨"fail", "", .obj []⟩]
      handle := fun _ _ _ => Run.fail (.problem problem) }
    let registry := Registry.after [.register probe]
    let logger : Logger :=
      { name := "rpncalc", threshold := 20, json := false, session := "0a1b2c3d" }
    Contained (.error (.problem problem))
      (handled logger "12:00" registry {} "fail" (.obj [])) := by
  intro problem probe registry logger
  let tool : Tool := ⟨"fail", "", .obj []⟩
  have htool : tool ∈ registry.tools := List.mem_singleton.mpr rfl
  obtain ⟨owner, howns, -, hcall⟩ := contained_after [.register probe] tool htool (by decide)
  have hprobe : registry.Owns probe tool.name := ⟨rfl, tool, List.mem_singleton.mpr rfl, rfl⟩
  obtain rfl := (Registry.coherent_after [.register probe]).owner_unique howns hprobe
  have hshallow : ¬ TooDeep logger (.obj []) := fun hdeep => absurd hdeep.2 nofun
  refine ((hcall logger "12:00" {} (.obj [])).2 hshallow).1.mpr ?_
  rintro fault escaped hraised hescapes
  obtain rfl : Fault.problem problem = fault := Except.error.inj hraised
  cases hescapes with
  | wordless h =>
      obtain ⟨kind, h⟩ := h
      cases h
  | unhashable h =>
      obtain ⟨-, hreason, -⟩ := Fault.hasUnhashableReason_iff.mp h
      cases hreason
  | unwritable _ _ h => cases h

/-- A problem with an infinite detail, one with a list for its reason, and a failure whose message
would have too many digits: none of them is reported, and the call has no answer. -/
theorem call_escapes :
    let probe (fault : Fault) : Capability := {
      name := "probe"
      description := ""
      tools := [⟨"fail", "", .obj []⟩]
      handle := fun _ _ _ => Run.fail fault }
    let reply (fault : Fault) :=
      (call (Registry.after [.register (probe fault)]) {} "fail" (.obj [])).outcome
    let infinity := Float.ofBits 0x7FF0000000000000
    reply (.problem (.general "CUSTOM" "custom" [("value", .float infinity)])) =
        .error (.internal "ValueError" "Out of range float values are not JSON compliant") ∧
      reply (.problem (.malformed "custom" (.arr []) [])) =
        .error (.internal "TypeError" "unhashable type: 'list'") ∧
      reply (.wordless "ValueError" (Obstacle.tooLong.toFault Json.displaying)) =
        .error (Obstacle.tooLong.toFault Json.displaying) :=
  ⟨rfl, rfl, rfl⟩

end ToolServer

end Calculator
