import Calculator.Proofs.Tool.Coherence
import Calculator.Tool.Server

/-!
# Listed and called tools

The tool server lists its own tools before those of the registry, and a call looks for its own tools
first, too. A registration does not know about the server's own names. So a capability may register
a tool under one of them: the tool is then listed a second time, and every call of it is answered by
the server. This is the only way in which the list and the calls can disagree.

## Main definitions

* `ToolServer.given`: the arguments that a handler gets.
* `ToolServer.answered`: the texts for the outcome of a handler.
* `ToolServer.pong`: the text that `ping` is answered with.

## Main results

* `ToolServer.call_ping_outcome`, `ToolServer.call_routed_outcome`: the two kinds of calls.
* `ToolServer.map_name_tools`: the listed names.
* `ToolServer.dispatch_after`: **when the list and the calls agree**, after every history.
-/

namespace Calculator.ToolServer

/-! ### Calls -/

/-- The arguments that a handler gets: an object in place of what says nothing. -/
def given (arguments : Json) : Json := if arguments.isTruthy then arguments else .obj []

/-- The texts for the outcome of a handler: its answer as strict JSON, or the report of a
failure. -/
def answered (outcome : Except Fault Answer) : Except Fault (List String) :=
  match outcome.bind (fun answer => encode (.obj answer.members)) with
  | .ok text => .ok [text]
  | .error fault => (encodeFault fault).map (fun text => [text])

/-- The text that `ping` is answered with. -/
def pong : String :=
  Json.render .spaced (.obj [("status", .str "ok"), ("service", .str serviceName)])

variable {registry : Registry} {settings : Settings} {name : String} {arguments : Json}

/-- A call of a routed tool is answered for the outcome of the registry's call. -/
theorem callRouted_outcome :
    (callRouted registry settings name arguments).outcome =
      answered (registry.call settings name arguments).outcome := by
  show Traced.value (ExceptT.run (callRouted registry settings name arguments)) = _
  simp only [callRouted, ExceptT.run_mk, Traced.value_bind, answered, Run.outcome]
  cases (ExceptT.run (registry.call settings name arguments)).value.bind
    (fun answer => encode (.obj answer.members)) <;> rfl

/-- A call of `ping` is answered by the server, whatever is registered. -/
theorem call_ping_outcome : (call registry settings ping.name arguments).outcome = .ok [pong] := by
  simp only [call, Run.outcome_bind, Run.outcome_log, if_true, Run.outcome_ofExcept]
  rfl

/-- Any other call of a routed name is answered for the outcome of the registry's call. -/
theorem call_routed_outcome {route : Route} (hname : name ≠ ping.name)
    (hroute : registry.route? name = some route) :
    (call registry settings name arguments).outcome =
      answered (registry.call settings name (given arguments)).outcome := by
  simp only [call, Run.outcome_bind, Run.outcome_log, if_neg hname, hroute, Option.isSome_some,
    if_true, callRouted_outcome, given]
  rfl

/-- A call of a routed name has the outcome of the handler that the name leads to. -/
theorem registry_call_outcome {route : Route} (hroute : registry.route? name = some route) :
    (registry.call settings name arguments).outcome =
      (route.capability.handle settings name arguments).outcome := by
  simp only [Registry.call, hroute, Run.outcome_bind, Run.outcome_log]
  rfl

/-! ### The list -/

/-- The registry's tools bear the routed names. -/
theorem map_name_registry_tools (h : registry.Coherent) :
    registry.tools.map Tool.name = registry.toolNames := by
  simp only [Registry.tools, Registry.toolNames, Table.values, Table.keys, List.map_map]
  refine List.map_congr_left fun entry hentry => ?_
  exact (h.route_leads (Table.get?_of_mem h.nodup_toolNames hentry)).1

/-- The listed names: the server's own, and the routed ones. -/
theorem map_name_tools (h : registry.Coherent) :
    (tools registry).map Tool.name = ping.name :: registry.toolNames := by
  rw [tools, List.map_append, map_name_registry_tools h]
  rfl

/-- A listed tool of the registry is where its name leads. -/
theorem exists_route_of_mem_tools (h : registry.Coherent) {tool : Tool}
    (htool : tool ∈ registry.tools) : ∃ owner, registry.route? tool.name = some ⟨owner, tool⟩ := by
  simp only [Registry.tools, Table.values, List.map_map, List.mem_map] at htool
  obtain ⟨⟨name, route⟩, hentry, rfl⟩ := htool
  have hroute : registry.route? name = some route := Table.get?_of_mem h.nodup_toolNames hentry
  obtain ⟨hname, -, -⟩ := h.route_leads hroute
  exact ⟨route.capability, by simpa only [Function.comp_apply, hname] using hroute⟩

/-- The listed names differ exactly if no registered capability has a tool called `ping`. -/
theorem nodup_tools_iff (h : registry.Coherent) :
    ((tools registry).map Tool.name).Nodup ↔ ∀ owner, ¬ registry.Owns owner ping.name := by
  rw [map_name_tools h, List.nodup_cons, and_iff_left h.nodup_toolNames, Registry.toolNames,
    ← Table.get?_isSome_iff]
  change ¬ (registry.route? ping.name).isSome ↔ _
  constructor
  · intro hnone owner howns
    obtain ⟨tool, hroute⟩ := h.owns_iff.mp howns
    simp [hroute] at hnone
  · intro hnone hsome
    obtain ⟨route, hroute⟩ := Option.isSome_iff_exists.mp hsome
    exact hnone route.capability (h.owns_iff.mpr ⟨route.tool, hroute⟩)

/-- **When the list and the calls agree.** After every history the listed names differ from each
other exactly if no registered capability has a tool called `ping`. A call of `ping` is answered by
the server in any case, so that such a tool is listed in vain; a call of any other listed tool is
answered for the outcome of the handler of the registered capability whose tool it is. -/
theorem dispatch_after (history : List Registry.Action) :
    let registry := Registry.after history
    (((tools registry).map Tool.name).Nodup ↔ ∀ owner, ¬ registry.Owns owner ping.name) ∧
    (∀ settings arguments, (call registry settings ping.name arguments).outcome = .ok [pong]) ∧
    ∀ tool ∈ registry.tools, ∃ owner, registry.capability? owner.name = some owner ∧
      tool ∈ owner.tools ∧
      (tool.name ≠ ping.name → ∀ settings arguments,
        (call registry settings tool.name arguments).outcome =
          answered (owner.handle settings tool.name (given arguments)).outcome) := by
  intro registry
  have hcoherent : registry.Coherent := Registry.coherent_after history
  refine ⟨nodup_tools_iff hcoherent, fun _ _ => call_ping_outcome, fun tool htool => ?_⟩
  obtain ⟨owner, hroute⟩ := exists_route_of_mem_tools hcoherent htool
  obtain ⟨-, hmem, howner⟩ := hcoherent.route_leads hroute
  refine ⟨owner, howner, hmem, fun hname settings arguments => ?_⟩
  rw [call_routed_outcome hname hroute, registry_call_outcome hroute]

/-- A capability with a tool called `ping`: it is registered, its tool is listed beside the server's
own, and a call does not run its handler. -/
theorem dispatch_shadowed_ping :
    let probe : Capability := {
      name := "probe"
      description := ""
      tools := [⟨"ping", "", .obj []⟩]
      handle := fun _ tool _ => return ⟨.listing, .str ("probe:" ++ tool)⟩ }
    let registry := Registry.after [.register probe]
    (tools registry).map Tool.name = ["ping", "ping"] ∧
      registry.capability? "probe" = some probe ∧
      (call registry {} "ping" (.obj [])).outcome ≠
        answered (probe.handle {} "ping" (.obj [])).outcome := by
  intro probe registry
  have hcall : (call registry {} "ping" (.obj [])).outcome =
      .ok ["\x7b\"status\": \"ok\", \"service\": \"rpncalc\"\x7d"] := call_ping_outcome
  have hhandler : answered (probe.handle {} "ping" (.obj [])).outcome =
      .ok ["\x7b\"kind\": \"postfix\", \"result\": \"probe:ping\"\x7d"] := rfl
  refine ⟨rfl, rfl, ?_⟩
  rw [hcall, hhandler]
  exact fun heq => absurd (Except.ok.inj heq) (by decide)

end Calculator.ToolServer
