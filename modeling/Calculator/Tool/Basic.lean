import Calculator.Journal.Event

/-!
# Tools and capabilities

A `Capability` owns named tools and answers calls of them. An `Answer` has a kind, which tells what
its result holds.
-/

namespace Calculator

/-- What the result of an answer holds. -/
inductive Answer.Kind where
  /-- The postfix form of an expression. -/
  | listing
  /-- The value of an expression. -/
  | value
  /-- The operators. -/
  | operators
  deriving DecidableEq, Repr

/-- The name of a kind of answer. -/
def Answer.Kind.name : Answer.Kind → String
  | .listing => "postfix"
  | .value => "value"
  | .operators => "operators"

/-- The kind of answer with a given name. -/
def Answer.Kind.ofName? (name : String) : Option Answer.Kind :=
  [Answer.Kind.listing, .value, .operators].find? (fun kind => kind.name = name)

/-- The answer of a tool. -/
structure Answer where
  /-- What the result holds. -/
  kind : Answer.Kind
  /-- The result. -/
  result : Json

/-- The members of a written answer. -/
def Answer.members (answer : Answer) : Fields :=
  [("kind", .str answer.kind.name), ("result", answer.result)]

/-- A tool as clients see it. -/
structure Tool where
  /-- The name, by which it is called. -/
  name : String
  /-- What it does, for people. -/
  description : String
  /-- The schema of its arguments. -/
  inputSchema : Json

/-- A named group of tools. -/
structure Capability where
  /-- The name. -/
  name : String
  /-- What it is for. -/
  description : String
  /-- The tools. -/
  tools : List Tool
  /-- Answer a call of a tool with arguments. -/
  handle : Settings → String → Json → Run Answer

end Calculator
