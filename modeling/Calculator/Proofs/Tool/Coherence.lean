import Calculator.Tool.Registry

/-!
# Registries over whole histories

A registry keeps two tables: capabilities by name and routes by tool name. They stay coherent
whatever is asked of the registry, in any order: each route leads to a tool of a registered
capability, and each tool of a registered capability has its route. The one way to a new entry is a
registration that finds all its names free, and a refused one leaves everything as it was.

## Main definitions

* `Registry.Admits`, `Registry.enroll`: when a capability can be registered, and what that does.
* `Registry.Coherent`: the invariant of the two tables.
* `Registry.Action`, `Registry.Reply`, `Registry.perform`: what may be asked, and what is replied.
* `Registry.after`: the registry after a history.

## Main results

* `Registry.register_value`: a registration enrolls the capability or is refused.
* `Registry.perform_registry`: what one action can do to a registry.
* `Registry.Coherent.perform`, `Registry.coherent_after`: the invariant by step and by run.
* `Registry.invariants_after`: **what holds after every history**.
-/

namespace Calculator.Registry

/-! ### Registrations -/

/-- A capability can be registered if its name and the names of all its tools are free. -/
structure Admits (registry : Registry) (capability : Capability) : Prop where
  /-- No capability of that name is registered. -/
  name_free : registry.capability? capability.name = none
  /-- No tool name leads anywhere. -/
  tools_free : ∀ tool ∈ capability.tools, registry.route? tool.name = none

/-- The registry with a further capability and a route to each of its tools. -/
def enroll (registry : Registry) (capability : Capability) : Registry where
  capabilities := Table.insert registry.capabilities capability.name capability
  routes := Table.merge registry.routes
    (capability.tools.map (fun tool => (tool.name, ⟨capability, tool⟩)))

variable {registry : Registry} {capability : Capability}

/-- None of some tools is taken exactly if none of their names leads anywhere. -/
theorem taken?_eq_none_iff {tools : List Tool} :
    registry.taken? tools = none ↔ ∀ tool ∈ tools, registry.route? tool.name = none := by
  simp [taken?, List.findSome?_eq_none_iff]

/-- A capability that can be registered is enrolled. -/
theorem add_of_admits (h : registry.Admits capability) :
    registry.add capability = .ok (registry.enroll capability) := by
  simp only [add, h.name_free, taken?_eq_none_iff.mpr h.tools_free]
  rfl

/-- Any other capability is refused. -/
theorem exists_error_of_not_admits (h : ¬ registry.Admits capability) :
    ∃ error, registry.add capability = .error error := by
  rw [add]
  split
  · exact ⟨_, rfl⟩
  · next hname =>
    split
    · exact ⟨_, rfl⟩
    · next htools =>
      exact absurd ⟨by simpa using hname, taken?_eq_none_iff.mp htools⟩ h

/-- **A registration** enrolls the capability, or it is refused and leaves the registry as it
was. -/
theorem register_value (registry : Registry) (capability : Capability) :
    registry.Admits capability ∧
        (registry.register capability).value = (.ok (), registry.enroll capability) ∨
      ¬ registry.Admits capability ∧ ∃ error : RegistryError,
        (registry.register capability).value = (.error (.problem error.toProblem), registry) := by
  rw [register]
  by_cases h : registry.Admits capability
  · exact .inl ⟨h, by rw [add_of_admits h]; rfl⟩
  · obtain ⟨error, herror⟩ := exists_error_of_not_admits h
    exact .inr ⟨h, error, by rw [herror]; rfl⟩

/-- Making a registry ready registers the expression capability, unless a capability of its name is
there already. -/
theorem prepare_value (registry : Registry) :
    registry.prepare.value =
      if (registry.capability? Arithmetic.capabilityName).isSome then (.ok (), registry)
      else (registry.register .expression).value := by
  cases hname : registry.capability? Arithmetic.capabilityName with
  | some capability => simp only [prepare, hname]; rfl
  | none =>
      simp only [prepare, hname, registerExpression, Capability.makeExpression]
      rcases register_value registry .expression with ⟨-, hvalue⟩ | ⟨-, error, hvalue⟩
      all_goals
        simp only [Option.isNone_none, if_true, Traced.value_bind, Traced.value_pure, hvalue]
        rfl

/-! ### Lookups after a registration -/

/-- The new capability is found under its name, and the others as before. -/
theorem capability?_enroll (name : String) :
    (registry.enroll capability).capability? name =
      if capability.name = name then some capability else registry.capability? name :=
  Table.get?_insert ..

/-- The names of the new routes are those of the tools. -/
private theorem keys_routes (capability : Capability) :
    Table.keys (capability.tools.map (fun tool => (tool.name, Route.mk capability tool))) =
      capability.tools.map Tool.name := by
  simp [Table.keys]

/-- The name of a new tool leads to a tool of that name. -/
theorem exists_route?_enroll (registry : Registry) {name : String}
    (h : name ∈ capability.tools.map Tool.name) :
    ∃ tool ∈ capability.tools, tool.name = name ∧
      (registry.enroll capability).route? name = some ⟨capability, tool⟩ := by
  rw [← keys_routes] at h
  obtain ⟨route, hmem, hroute⟩ := Table.exists_get?_merge h registry.routes
  obtain ⟨tool, htool, heq⟩ := List.mem_map.mp hmem
  obtain ⟨rfl, rfl⟩ := Prod.mk.inj heq
  exact ⟨tool, htool, rfl, hroute⟩

/-- Any other name leads where it led before. -/
theorem route?_enroll_of_not_mem {name : String} (h : name ∉ capability.tools.map Tool.name) :
    (registry.enroll capability).route? name = registry.route? name := by
  rw [← keys_routes] at h
  exact Table.get?_merge_of_not_mem h registry.routes

/-- A name that leads somewhere is not among those of a new capability. -/
theorem Admits.not_mem_of_route? {name : String} {route : Route} (h : registry.Admits capability)
    (hroute : registry.route? name = some route) : name ∉ capability.tools.map Tool.name := by
  intro hname
  obtain ⟨tool, htool, rfl⟩ := List.mem_map.mp hname
  simp [h.tools_free tool htool] at hroute

/-- A route stays when a capability is registered. -/
theorem Admits.route?_enroll {name : String} {route : Route} (h : registry.Admits capability)
    (hroute : registry.route? name = some route) :
    (registry.enroll capability).route? name = some route := by
  rw [route?_enroll_of_not_mem (h.not_mem_of_route? hroute), hroute]

/-- A capability stays registered when another one is. -/
theorem Admits.capability?_enroll {name : String} {other : Capability}
    (h : registry.Admits capability) (hother : registry.capability? name = some other) :
    (registry.enroll capability).capability? name = some other := by
  rw [Registry.capability?_enroll, if_neg, hother]
  rintro rfl
  simp [h.name_free] at hother

/-! ### The invariant -/

/-- A capability is registered under its own name, and a tool of it has a given name. -/
def Owns (registry : Registry) (owner : Capability) (name : String) : Prop :=
  registry.capability? owner.name = some owner ∧ ∃ tool ∈ owner.tools, tool.name = name

/-- The two tables agree. -/
structure Coherent (registry : Registry) : Prop where
  /-- Capabilities are registered under their own names. -/
  name_eq : ∀ {name capability}, registry.capability? name = some capability →
    capability.name = name
  /-- Each name leads to a tool of that name, of a capability that is registered. -/
  route_leads : ∀ {name route}, registry.route? name = some route →
    route.tool.name = name ∧ route.tool ∈ route.capability.tools ∧
      registry.capability? route.capability.name = some route.capability
  /-- The name of each tool of a registered capability leads to that capability. -/
  tool_routed : ∀ {name capability}, registry.capability? name = some capability →
    ∀ tool ∈ capability.tools, ∃ routed,
      registry.route? tool.name = some ⟨capability, routed⟩
  /-- No name is routed twice. -/
  nodup_toolNames : registry.toolNames.Nodup

/-- Nothing is registered at first. -/
theorem coherent_empty : Coherent {} where
  name_eq := by simp [capability?, Table.get?]
  route_leads := by simp [route?, Table.get?]
  tool_routed := by simp [capability?, Table.get?]
  nodup_toolNames := List.nodup_nil

namespace Coherent

/-- A registration keeps the tables coherent. -/
theorem enroll (h : registry.Coherent) (hadmits : registry.Admits capability) :
    (registry.enroll capability).Coherent where
  name_eq := by
    intro name other hother
    rw [Registry.capability?_enroll] at hother
    split at hother
    · next hname => exact Option.some.inj hother ▸ hname
    · exact h.name_eq hother
  route_leads := by
    intro name route hroute
    by_cases hname : name ∈ capability.tools.map Tool.name
    · obtain ⟨tool, htool, rfl, hnew⟩ := exists_route?_enroll registry hname
      obtain rfl := Option.some.inj (hnew.symm.trans hroute)
      exact ⟨rfl, htool, by simp [Registry.capability?_enroll]⟩
    · rw [route?_enroll_of_not_mem hname] at hroute
      obtain ⟨htool, hmem, howner⟩ := h.route_leads hroute
      exact ⟨htool, hmem, hadmits.capability?_enroll howner⟩
  tool_routed := by
    intro name other hother tool htool
    rw [Registry.capability?_enroll] at hother
    split at hother
    · obtain rfl := Option.some.inj hother
      obtain ⟨routed, -, -, hroute⟩ :=
        exists_route?_enroll registry (List.mem_map_of_mem htool)
      exact ⟨routed, hroute⟩
    · obtain ⟨routed, hroute⟩ := h.tool_routed hother tool htool
      exact ⟨routed, hadmits.route?_enroll hroute⟩
  nodup_toolNames := Table.nodup_keys_merge h.nodup_toolNames _

/-- The owner of a name is what the name leads to. -/
theorem owns_iff (h : registry.Coherent) {owner : Capability} {name : String} :
    registry.Owns owner name ↔ ∃ tool, registry.route? name = some ⟨owner, tool⟩ := by
  constructor
  · rintro ⟨howner, tool, htool, rfl⟩
    exact h.tool_routed howner tool htool
  · rintro ⟨tool, hroute⟩
    obtain ⟨hname, hmem, howner⟩ := h.route_leads hroute
    exact ⟨howner, tool, hmem, hname⟩

/-- A name has one owner. -/
theorem owner_unique (h : registry.Coherent) {owner owner' : Capability} {name : String}
    (howns : registry.Owns owner name) (howns' : registry.Owns owner' name) : owner = owner' := by
  obtain ⟨tool, hroute⟩ := h.owns_iff.mp howns
  obtain ⟨tool', hroute'⟩ := h.owns_iff.mp howns'
  exact (Route.mk.inj (Option.some.inj (hroute.symm.trans hroute'))).1

/-- Capabilities registered under two names share no tool name. -/
theorem tool_name_ne (h : registry.Coherent) {name name' : String} {owner owner' : Capability}
    (howner : registry.capability? name = some owner)
    (howner' : registry.capability? name' = some owner') (hne : name ≠ name') :
    ∀ tool ∈ owner.tools, ∀ tool' ∈ owner'.tools, tool.name ≠ tool'.name := by
  intro tool htool tool' htool' heq
  obtain rfl := h.name_eq howner
  obtain rfl := h.name_eq howner'
  have howns : registry.Owns owner tool.name := ⟨howner, tool, htool, rfl⟩
  have howns' : registry.Owns owner' tool.name := ⟨howner', tool', htool', heq.symm⟩
  exact hne (congrArg Capability.name (h.owner_unique howns howns'))

end Coherent

/-! ### Histories -/

/-- What may be asked of a registry. -/
inductive Action where
  /-- To register a capability. -/
  | register (capability : Capability)
  /-- To be made ready for a tool server. -/
  | prepare
  /-- To forget everything. -/
  | reset
  /-- To list its tools. -/
  | list
  /-- To call a tool. -/
  | call (settings : Settings) (tool : String) (arguments : Json)

/-- What a registry replies. -/
inductive Reply where
  /-- Something was done, or refused. -/
  | done (result : Except Fault Unit)
  /-- The tools. -/
  | listed (tools : List Tool)
  /-- A tool was called. -/
  | called (outcome : Except Fault Answer)

/-- The reply to an action, and the registry afterwards. -/
def perform (registry : Registry) : Action → Reply × Registry
  | .register capability =>
    (.done (registry.register capability).value.1, (registry.register capability).value.2)
  | .prepare => (.done registry.prepare.value.1, registry.prepare.value.2)
  | .reset => (.done (.ok ()), {})
  | .list => (.listed registry.tools, registry)
  | .call settings tool arguments =>
    (.called (registry.call settings tool arguments).outcome, registry)

/-- The registry after a history, from an empty one on. -/
def after (history : List Action) : Registry :=
  history.foldl (fun registry action => (registry.perform action).2) {}

/-- **What one action can do**: forget everything, enroll a capability whose names are free, or
nothing. -/
theorem perform_registry (registry : Registry) (action : Action) :
    (registry.perform action).2 = registry ∨
      action = .reset ∧ (registry.perform action).2 = {} ∨
      ∃ capability, registry.Admits capability ∧
        (registry.perform action).2 = registry.enroll capability := by
  cases action with
  | register capability =>
      simp only [perform]
      rcases register_value registry capability with ⟨hadmits, hvalue⟩ | ⟨-, error, hvalue⟩
      · exact .inr (.inr ⟨capability, hadmits, by rw [hvalue]⟩)
      · exact .inl (by rw [hvalue])
  | prepare =>
      simp only [perform, prepare_value]
      split
      · exact .inl rfl
      rcases register_value registry .expression with ⟨hadmits, hvalue⟩ | ⟨-, error, hvalue⟩
      · exact .inr (.inr ⟨_, hadmits, by rw [hvalue]⟩)
      · exact .inl (by rw [hvalue])
  | reset => exact .inr (.inl ⟨rfl, rfl⟩)
  | list => exact .inl rfl
  | call settings tool arguments => exact .inl rfl

/-- Each action keeps the tables coherent. -/
theorem Coherent.perform (h : registry.Coherent) (action : Action) :
    (registry.perform action).2.Coherent := by
  rcases perform_registry registry action with hkept | ⟨-, hreset⟩ | ⟨capability, hadmits, henroll⟩
  · rwa [hkept]
  · rw [hreset]
    exact coherent_empty
  · rw [henroll]
    exact h.enroll hadmits

/-- The tables are coherent after every history. -/
theorem coherent_after (history : List Action) : (after history).Coherent := by
  have hrun : ∀ registry : Registry, registry.Coherent →
      (history.foldl (fun registry action => (registry.perform action).2) registry).Coherent := by
    induction history with
    | nil => exact fun _ h => h
    | cons action rest ih => exact fun _ h => ih _ (h.perform action)
  exact hrun {} coherent_empty

/-- A route stays through every action but a reset. -/
theorem route?_perform {action : Action} (haction : action ≠ .reset) {name : String} {route : Route}
    (hroute : registry.route? name = some route) :
    (registry.perform action).2.route? name = some route := by
  rcases perform_registry registry action with hkept | ⟨hreset, -⟩ | ⟨capability, hadmits, henroll⟩
  · rw [hkept, hroute]
  · exact absurd hreset haction
  · rw [henroll, hadmits.route?_enroll hroute]

/-- A route stays through every history without a reset. -/
theorem route?_after_append (history : List Action) {later : List Action}
    (hlater : Action.reset ∉ later) {name : String} {route : Route}
    (hroute : (after history).route? name = some route) :
    (after (history ++ later)).route? name = some route := by
  rw [after, List.foldl_append]
  change (later.foldl _ (after history)).route? name = some route
  generalize after history = registry at hroute
  induction later generalizing registry with
  | nil => exact hroute
  | cons action rest ih =>
      obtain ⟨haction, hrest⟩ : action ≠ .reset ∧ Action.reset ∉ rest := by
        simpa [eq_comm] using hlater
      exact ih hrest _ (route?_perform haction hroute)

/-- An action that fails is a registration that is refused, and it leaves the registry as it was. -/
theorem perform_of_error {action : Action} {fault : Fault}
    (h : (registry.perform action).1 = .done (.error fault)) :
    (registry.perform action).2 = registry ∧
      ∃ error : RegistryError, fault = .problem error.toProblem := by
  have hregister (capability : Capability)
      (hfault : (registry.register capability).value.1 = .error fault) :
      (registry.register capability).value.2 = registry ∧
        ∃ error : RegistryError, fault = .problem error.toProblem := by
    rcases register_value registry capability with ⟨-, hvalue⟩ | ⟨-, error, hvalue⟩
    · simp [hvalue] at hfault
    · rw [hvalue] at hfault ⊢
      exact ⟨rfl, error, (Except.error.inj hfault).symm⟩
  cases action with
  | register capability => exact hregister capability (Reply.done.inj h)
  | prepare =>
      simp only [perform, prepare_value] at h ⊢
      split at h
      · simp at h
      · next hname =>
        rw [if_neg hname]
        exact hregister .expression (Reply.done.inj h)
  | reset => simp [perform] at h
  | list => simp [perform] at h
  | call settings tool arguments => simp [perform] at h

/-- A registration succeeds exactly if all names are free, and then the capability is registered. -/
theorem perform_register_ok_iff :
    (registry.perform (.register capability)).1 = .done (.ok ()) ↔ registry.Admits capability := by
  simp only [perform]
  rcases register_value registry capability with ⟨hadmits, hvalue⟩ | ⟨hadmits, error, hvalue⟩
  · simp [hvalue, hadmits]
  · simp [hvalue, hadmits]

/-- A call has the outcome of the owner's handler, or it is refused because there is no owner. -/
theorem Coherent.call_outcome (h : registry.Coherent) (settings : Settings) (name : String)
    (arguments : Json) :
    (∃ owner, registry.Owns owner name ∧
        (registry.call settings name arguments).outcome =
          (owner.handle settings name arguments).outcome) ∨
      (∀ owner, ¬ registry.Owns owner name) ∧
        (registry.call settings name arguments).outcome =
          .error (.problem (RegistryError.unknownTool name).toProblem) := by
  rw [call]
  cases hroute : registry.route? name with
  | none =>
      refine .inr ⟨fun owner howns => ?_, rfl⟩
      obtain ⟨tool, hsome⟩ := h.owns_iff.mp howns
      simp [hroute] at hsome
  | some route =>
      refine .inl ⟨route.capability, h.owns_iff.mpr ⟨route.tool, hroute⟩, ?_⟩
      simp only [Run.outcome_bind, Run.outcome_log]
      rfl

/-- **What holds after every history** of registrations, preparations, resets, listings and calls.
Each routed name leads to a tool of that name, of a capability registered under its own name; each
tool of a registered capability is routed to it; capabilities registered under two names share no
tool name; and a name keeps its route until a reset. Whatever fails is refused by the registry and
leaves it as it was; a registration succeeds exactly if all its names are free, and then the
capability is registered; listings and calls change nothing; and a call is answered by the owner of
the name, or refused if there is none. -/
theorem invariants_after (history : List Action) :
    let registry := after history
    (∀ name route, registry.route? name = some route →
      route.tool.name = name ∧ route.tool ∈ route.capability.tools ∧
        registry.capability? route.capability.name = some route.capability) ∧
    (∀ name capability, registry.capability? name = some capability →
      capability.name = name ∧ ∀ tool ∈ capability.tools, ∃ routed,
        registry.route? tool.name = some ⟨capability, routed⟩) ∧
    (∀ name name' owner owner', registry.capability? name = some owner →
      registry.capability? name' = some owner' → name ≠ name' →
      ∀ tool ∈ owner.tools, ∀ tool' ∈ owner'.tools, tool.name ≠ tool'.name) ∧
    (∀ later, Action.reset ∉ later → ∀ name route, registry.route? name = some route →
      (after (history ++ later)).route? name = some route) ∧
    (∀ action fault, (registry.perform action).1 = .done (.error fault) →
      (registry.perform action).2 = registry ∧
        ∃ error : RegistryError, fault = .problem error.toProblem) ∧
    (∀ capability, ((registry.perform (.register capability)).1 = .done (.ok ()) ↔
        registry.Admits capability) ∧
      (registry.Admits capability →
        (registry.perform (.register capability)).2.capability? capability.name =
          some capability)) ∧
    (registry.perform .list).2 = registry ∧
    ∀ settings name arguments,
      let (reply, afterwards) := registry.perform (.call settings name arguments)
      afterwards = registry ∧
        ((∃ owner, registry.Owns owner name ∧
            reply = .called (owner.handle settings name arguments).outcome) ∨
          (∀ owner, ¬ registry.Owns owner name) ∧
            reply = .called (.error (.problem (RegistryError.unknownTool name).toProblem))) := by
  intro registry
  have hcoherent : registry.Coherent := coherent_after history
  refine ⟨fun _ _ => hcoherent.route_leads,
    fun _ _ hname => ⟨hcoherent.name_eq hname, hcoherent.tool_routed hname⟩,
    fun _ _ _ _ => hcoherent.tool_name_ne, fun _ hlater _ _ => route?_after_append history hlater,
    fun _ _ => perform_of_error, fun capability => ⟨perform_register_ok_iff, ?_⟩, rfl, ?_⟩
  · intro hadmits
    rcases register_value registry capability with ⟨-, hvalue⟩ | ⟨hnot, -⟩
    · simp [perform, hvalue, capability?_enroll]
    · exact absurd hadmits hnot
  · intro settings name arguments
    refine ⟨rfl, ?_⟩
    rcases hcoherent.call_outcome settings name arguments with
      ⟨owner, howns, houtcome⟩ | ⟨hnone, houtcome⟩
    · exact .inl ⟨owner, howns, congrArg Reply.called houtcome⟩
    · exact .inr ⟨hnone, congrArg Reply.called houtcome⟩

end Calculator.Registry
