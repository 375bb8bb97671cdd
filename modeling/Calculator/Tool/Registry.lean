import Calculator.Tool.Arithmetic

/-!
# The tool registry

The registry routes tool names to the capabilities that own them. Names are global: a registration
that would take a capability's or a tool's name a second time changes nothing.

## Main definitions

* `Registry`, `Registry.register`.
* `Registry.route?`, `Registry.call`.
* `Registry.prepare`: make sure that the expression capability is registered.
-/

namespace Calculator

/-- Where a tool name leads. -/
structure Route where
  /-- The capability that owns the tool. -/
  capability : Capability
  /-- The tool. -/
  tool : Tool

/-- Capabilities by name and routes by tool name. -/
structure Registry where
  /-- The capabilities, in order of registration. -/
  capabilities : Table Capability := []
  /-- The routes, in order of registration. -/
  routes : Table Route := []

/-- Why a registration or a call was refused. -/
inductive RegistryError where
  /-- The capability's name is taken. -/
  | capabilityTaken (name : String)
  /-- The tool's name is taken by another capability. -/
  | toolTaken (tool capability : String)
  /-- No tool has that name. -/
  | unknownTool (tool : String)
  deriving DecidableEq, Repr

/-- The problem with a refused registration or call. -/
def RegistryError.toProblem : RegistryError → Problem
  | .capabilityTaken name =>
    .registry s!"Capability '{name}' already registered" [("capability", .str name)]
  | .toolTaken tool capability =>
    .registry s!"Tool '{tool}' already registered by capability '{capability}'"
      [("tool", .str tool), ("capability", .str capability)]
  | .unknownTool tool => .registry s!"Unknown tool: '{tool}'" [("tool", .str tool)]

namespace Registry

/-- The capability with a given name. -/
def capability? (registry : Registry) (name : String) : Option Capability :=
  Table.get? registry.capabilities name

/-- Where a tool name leads. -/
def route? (registry : Registry) (tool : String) : Option Route :=
  Table.get? registry.routes tool

/-- The routed tool names. -/
def toolNames (registry : Registry) : List String := Table.keys registry.routes

/-- The routed tools. -/
def tools (registry : Registry) : List Tool := (Table.values registry.routes).map Route.tool

/-- The first of some tools whose name is taken, with its owner. -/
def taken? (registry : Registry) (tools : List Tool) : Option (Tool × Capability) :=
  tools.findSome? (fun tool =>
    (registry.route? tool.name).map (fun route => (tool, route.capability)))

/-- What a registration does to the tables, or why it is refused. -/
def add (registry : Registry) (capability : Capability) : Except RegistryError Registry :=
  if (registry.capability? capability.name).isSome then .error (.capabilityTaken capability.name)
  else
    match registry.taken? capability.tools with
    | some (tool, owner) => .error (.toolTaken tool.name owner.name)
    | none =>
      .ok {
        capabilities := Table.insert registry.capabilities capability.name capability
        routes := Table.merge registry.routes
          (capability.tools.map (fun tool => (tool.name, ⟨capability, tool⟩))) }

/-- Register a capability. A refused registration leaves the registry as it was. -/
def register (registry : Registry) (capability : Capability) :
    Traced (Except Fault Unit × Registry) :=
  match registry.add capability with
  | .error error => pure (.error (.problem error.toProblem), registry)
  | .ok after => do
    Traced.log .info "Capability registered"
      [("capability", .str capability.name), ("tools", .texts (capability.tools.map Tool.name))]
    return (.ok (), after)

/-- Set up and register the expression capability. -/
def registerExpression (registry : Registry) : Traced (Except Fault Unit × Registry) := do
  let capability ← Capability.makeExpression
  registry.register capability

/-- Register the expression capability unless a capability of its name is there already. -/
def prepare (registry : Registry) : Traced (Except Fault Unit × Registry) := do
  let (result, after) ←
    if (registry.capability? Arithmetic.capabilityName).isNone then registry.registerExpression
    else pure (.ok (), registry)
  match result with
  | .error fault => return (.error fault, after)
  | .ok () =>
    Traced.log .info "Registry initialized" [("tools", .texts after.toolNames)]
    return (.ok (), after)

/-- Call a tool on the capability that owns it. -/
def call (registry : Registry) (settings : Settings) (tool : String) (arguments : Json) :
    Run Answer :=
  match registry.route? tool with
  | none => Run.fail (.problem (RegistryError.unknownTool tool).toProblem)
  | some route => do
    Run.log .debug "Routing tool call"
      [("tool", .str tool), ("capability", .str route.capability.name)]
    route.capability.handle settings tool arguments

end Registry

end Calculator
