import Calculator.Problem

/-!
# Events and traced computations

What the program reports while it works: an `Event` has a level, a message and named values. A
`Traced` computation is a value together with the events on the way to it, and a `Run` is a traced
computation that may fail.

## Main definitions

* `Level`, `Event`.
* `Traced`, `Traced.log`.
* `Run`, `Run.fail`, `Run.log`, `Run.ofExcept`.
* `Run.reported`: a call that reports its end.
* `Run.timed`: a call that reports its start and its end.
-/

namespace Calculator

/-- How grave an event is. -/
inductive Level where
  /-- Of interest to those who look for a mistake. -/
  | debug
  /-- The normal course of things. -/
  | info
  /-- Something that a caller should change. -/
  | warning
  /-- Something that went wrong. -/
  | error
  /-- Something that makes it hard to go on. -/
  | critical
  deriving DecidableEq, Repr

namespace Level

/-- All levels. -/
def all : List Level := [.debug, .info, .warning, .error, .critical]

/-- The name of a level. -/
def name : Level → String
  | .debug => "DEBUG"
  | .info => "INFO"
  | .warning => "WARNING"
  | .error => "ERROR"
  | .critical => "CRITICAL"

/-- The rank of a level. -/
def rank : Level → Nat
  | .debug => 10
  | .info => 20
  | .warning => 30
  | .error => 40
  | .critical => 50

/-- The level with a given name. -/
def ofName? (name : String) : Option Level := all.find? (fun level => level.name = name)

end Level

/-- Something that the program reports. -/
structure Event where
  /-- How grave it is. -/
  level : Level
  /-- What happened. -/
  message : String
  /-- The values that belong to it. -/
  fields : Fields := []

/-- A value and the events on the way to it. -/
structure Traced (α : Type) where
  /-- The value. -/
  value : α
  /-- The events, the earliest first. -/
  events : List Event := []

namespace Traced

instance : Monad Traced where
  pure value := ⟨value, []⟩
  bind traced next :=
    let after := next traced.value
    ⟨after.value, traced.events ++ after.events⟩

/-- Report an event. -/
def log (level : Level) (message : String) (fields : Fields) : Traced Unit :=
  ⟨(), [⟨level, message, fields⟩]⟩

/-- A pure value reports nothing. -/
@[simp]
theorem value_pure {α : Type} (a : α) : (pure a : Traced α).value = a := rfl

/-- The value of a sequence is that of its last part. -/
@[simp]
theorem value_bind {α β : Type} (a : Traced α) (f : α → Traced β) :
    (a >>= f).value = (f a.value).value := rfl

end Traced

/-- A traced computation that may fail. -/
abbrev Run (α : Type) := ExceptT Fault Traced α

namespace Run

variable {α : Type}

/-- Fail. -/
def fail (fault : Fault) : Run α := ExceptT.mk (pure (.error fault))

/-- Report an event. -/
def log (level : Level) (message : String) (fields : Fields) : Run Unit :=
  ExceptT.lift (Traced.log level message fields)

/-- A computation without events. -/
def ofExcept (result : Except Fault α) : Run α := ExceptT.mk (pure result)

/-- The outcome of a computation. -/
def outcome (run : Run α) : Except Fault α := (ExceptT.run run).value

/-- The longest text of an argument in an event. -/
def maxArgumentLength : Nat := 1000

/-- A text in an event, cut off when it is long. -/
def cutOff (text : String) : String :=
  if maxArgumentLength < text.length then
    String.ofList (text.toList.take maxArgumentLength) ++ "...(truncated)"
  else text

/-- The text of an argument in an event. -/
def argumentText (value : Json) : Except Fault String := value.toText.map cutOff

/-- The text of a named argument in an event. -/
def namedText (argument : String × Json) : Except Fault (String × Json) :=
  (argumentText argument.2).map fun text => (argument.1, .str text)

/-- A call that reports its end or its failure. A failure without a wording cannot be reported: what
it fails for takes its place. -/
def reported (name : String) (action : Run α) : Run α :=
  ExceptT.mk do
    let result ← ExceptT.run action
    match result with
    | .ok _ => Traced.log .info ("Completed " ++ name) [("success", .bool true)]
    | .error fault =>
      match fault.wording with
      | .error _ => pure ()
      | .ok wording =>
        Traced.log .error ("Failed " ++ name)
          [("error", .str wording), ("error_type", .str fault.kind), ("success", .bool false)]
    return result.mapError Fault.worded

/-- A call that reports its start with its arguments, and its end or its failure. There is no call
without the texts of the arguments. -/
def timed (name : String) (arguments : List Json) (named : Fields) (action : Run α) : Run α := do
  let texts ← ofExcept (arguments.mapM argumentText)
  let namedTexts ← ofExcept (named.mapM namedText)
  log .debug ("Starting " ++ name) [("args", .texts texts), ("kwargs", .obj namedTexts)]
  reported name action

/-! ### Outcomes -/

variable {β : Type}

/-- A pure value is an outcome. -/
@[simp]
theorem outcome_pure (a : α) : (pure a : Run α).outcome = .ok a := rfl

/-- A failure is an outcome. -/
@[simp]
theorem outcome_fail (fault : Fault) : (fail fault : Run α).outcome = .error fault := rfl

/-- A result is an outcome. -/
@[simp]
theorem outcome_ofExcept (result : Except Fault α) : (ofExcept result).outcome = result := rfl

/-- Events make no difference to an outcome. -/
@[simp]
theorem outcome_log (level : Level) (message : String) (fields : Fields) :
    (log level message fields).outcome = .ok () := rfl

/-- The outcome of a sequence is that of its second part, unless the first one fails. -/
@[simp]
theorem outcome_bind (run : Run α) (next : α → Run β) :
    (run >>= next).outcome = run.outcome.bind fun a => (next a).outcome := by
  obtain ⟨_ | _, _⟩ := run <;> rfl

/-- A function of the value leaves failures as they are. -/
@[simp]
theorem outcome_map (f : α → β) (run : Run α) : (f <$> run).outcome = run.outcome.map f := by
  obtain ⟨_ | _, _⟩ := run <;> rfl

/-- A call that is reported has the outcome of what it calls, or what that fails for to be
worded. -/
theorem outcome_reported (name : String) (action : Run α) :
    (reported name action).outcome = action.outcome.mapError Fault.worded := by
  obtain ⟨fault | _, _⟩ := action
  · cases fault <;> rfl
  · rfl

/-- A call has the outcome of what it calls, if its arguments have texts. -/
theorem outcome_timed (name : String) (arguments : List Json) (named : Fields) (action : Run α) :
    (timed name arguments named action).outcome =
      (arguments.mapM argumentText).bind fun _ =>
        (named.mapM namedText).bind fun _ => action.outcome.mapError Fault.worded := by
  simp only [timed, outcome_bind, outcome_ofExcept, outcome_log, outcome_reported]
  rfl

end Run

end Calculator
