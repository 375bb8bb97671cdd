import Calculator.Table
import Calculator.Stack
import Calculator.Text.Quoted
import Calculator.Text.Integer
import Calculator.Decimal.Shortest
import Calculator.Decimal.Text
import Calculator.Json.Basic
import Calculator.Json.Display
import Calculator.Json.Obstacle
import Calculator.Json.Printer
import Calculator.Json.Reader
import Calculator.Text.Encoding
import Calculator.Expression.Error
import Calculator.Postfix.Conversion
import Calculator.Postfix.Evaluation
import Calculator.Problem
import Calculator.Report
import Calculator.Journal.Event
import Calculator.Journal.Logger
import Calculator.Expression.Basic
import Calculator.Tool.Arithmetic
import Calculator.Tool.Engine
import Calculator.Tool.Registry
import Calculator.Tool.Server
import Calculator.Startup.Arguments
import Calculator.Startup.Launch
import Calculator.Main
import Calculator.Proofs.Postfix.Tree
import Calculator.Proofs.Postfix.Yard
import Calculator.Proofs.Postfix.Underflow
import Calculator.Proofs.Postfix.Height
import Calculator.Proofs.Postfix.Balance
import Calculator.Proofs.Postfix.Group
import Calculator.Proofs.Postfix.Emission
import Calculator.Proofs.Postfix.Unclosed
import Calculator.Proofs.Postfix.Stability
import Calculator.Proofs.Postfix.Levels
import Calculator.Proofs.Infix.Alternation
import Calculator.Proofs.Infix.Grammar
import Calculator.Proofs.Token.Reading
import Calculator.Proofs.Expression.Outcome
import Calculator.Proofs.Expression.Refusal
import Calculator.Proofs.Expression.Acceptance
import Calculator.Proofs.Expression.Exchange
import Calculator.Proofs.Expression.Rendering
import Calculator.Proofs.Expression.Shape
import Calculator.Proofs.Expression.LengthLimit
import Calculator.Proofs.Expression.Splitting
import Calculator.Proofs.Expression.Rereading
import Calculator.Proofs.Expression.Recall
import Calculator.Proofs.Expression.Memory
import Calculator.Proofs.Tool.Coherence
import Calculator.Proofs.Tool.Dispatch
import Calculator.Proofs.Tool.Containment
import Calculator.Proofs.Json.Obstacle
import Calculator.Proofs.Json.Reading
import Calculator.Proofs.Json.Members
import Calculator.Proofs.Json.Grammar
import Calculator.Proofs.Json.Characters
import Calculator.Proofs.Web.Posting
import Calculator.Proofs.Service.Report
import Calculator.Proofs.Service.Mapping
import Calculator.Proofs.Service.Agreement
import Calculator.Proofs.Service.Code
import Calculator.Proofs.Web.Reception
import Calculator.Proofs.Startup.Configured
import Calculator.Proofs.Journal.Fields
import Calculator.Proofs.Journal.Line
import Calculator.Proofs.Journal.Call
import Calculator.Proofs.Journal.Header
