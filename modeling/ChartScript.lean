import ChartScript.Artifact.Commit
import ChartScript.Artifact.Id
import ChartScript.Artifact.Registry
import ChartScript.Artifact.Sink
import ChartScript.Artifact.Stage
import ChartScript.Attachment.Csv
import ChartScript.Attachment.Store
import ChartScript.Attachment.Table
import ChartScript.Bridge.Basic
import ChartScript.Console
import ChartScript.Context.Basic
import ChartScript.Context.Event
import ChartScript.Data.Assoc
import ChartScript.Failure
import ChartScript.Fleet.Basic
import ChartScript.Fleet.System
import ChartScript.Gateway.Body
import ChartScript.Gateway.Query
import ChartScript.Gateway.Route
import ChartScript.Gateway.Service
import ChartScript.Gateway.Shapes
import ChartScript.Host.Dispatch
import ChartScript.Indicator.Argument
import ChartScript.Indicator.Catalogue
import ChartScript.Indicator.Kernel
import ChartScript.Indicator.Scalar
import ChartScript.Indicator.Series
import ChartScript.Journal
import ChartScript.Market.Bar
import ChartScript.Market.BarStore
import ChartScript.Market.Feed
import ChartScript.Market.Time
import ChartScript.Message.Call
import ChartScript.Message.Lifecycle
import ChartScript.Message.Rpc
import ChartScript.Number.Binary64
import ChartScript.Number.Conversion
import ChartScript.Number.Layout
import ChartScript.Number.Reading
import ChartScript.Number.Root
import ChartScript.Number.Rounding
import ChartScript.Number.Shortest
import ChartScript.Plot.Kind
import ChartScript.Plot.Shape
import ChartScript.Proofs.Artifact.Apart
import ChartScript.Proofs.Artifact.Commit
import ChartScript.Proofs.Artifact.Draft
import ChartScript.Proofs.Artifact.Interruption
import ChartScript.Proofs.Artifact.Qualified
import ChartScript.Proofs.Artifact.Replacement
import ChartScript.Proofs.Artifact.Sink
import ChartScript.Proofs.Attachment.Cells
import ChartScript.Proofs.Attachment.Columns
import ChartScript.Proofs.Attachment.Lines
import ChartScript.Proofs.Attachment.Reading
import ChartScript.Proofs.Attachment.Splitting
import ChartScript.Proofs.Attachment.Store
import ChartScript.Proofs.Attachment.Written
import ChartScript.Proofs.Bridge.Blank
import ChartScript.Proofs.Bridge.Correlation
import ChartScript.Proofs.Bridge.Pending
import ChartScript.Proofs.Bridge.Stranded
import ChartScript.Proofs.Context.Answers
import ChartScript.Proofs.Context.Calls
import ChartScript.Proofs.Context.Course
import ChartScript.Proofs.Context.Deed
import ChartScript.Proofs.Context.Demise
import ChartScript.Proofs.Context.Errands
import ChartScript.Proofs.Context.Interruption
import ChartScript.Proofs.Context.Lifecycle
import ChartScript.Proofs.Context.Lingering
import ChartScript.Proofs.Context.Process
import ChartScript.Proofs.Context.Regular
import ChartScript.Proofs.Context.Sealing
import ChartScript.Proofs.Context.Step
import ChartScript.Proofs.Data.Assoc
import ChartScript.Proofs.Data.Basic
import ChartScript.Proofs.Fleet.Aftermath
import ChartScript.Proofs.Fleet.Artifacts
import ChartScript.Proofs.Fleet.Budget
import ChartScript.Proofs.Fleet.Chronicle
import ChartScript.Proofs.Fleet.Completion
import ChartScript.Proofs.Fleet.Fate
import ChartScript.Proofs.Fleet.Feed
import ChartScript.Proofs.Fleet.Isolation
import ChartScript.Proofs.Fleet.Ledger
import ChartScript.Proofs.Fleet.Orphans
import ChartScript.Proofs.Fleet.Run
import ChartScript.Proofs.Fleet.Silence
import ChartScript.Proofs.Fleet.SoleWriter
import ChartScript.Proofs.Host.Answer
import ChartScript.Proofs.Indicator.Causal
import ChartScript.Proofs.Indicator.Convergence
import ChartScript.Proofs.Indicator.Exact
import ChartScript.Proofs.Indicator.Missing
import ChartScript.Proofs.Indicator.Settled
import ChartScript.Proofs.Indicator.Shared
import ChartScript.Proofs.Indicator.Strength
import ChartScript.Proofs.Market.BarStore
import ChartScript.Proofs.Message.RoundTrip
import ChartScript.Proofs.Message.Transit
import ChartScript.Proofs.Number.Special
import ChartScript.Proofs.Plot.Normal
import ChartScript.Proofs.Plot.Transport
import ChartScript.Proofs.Schema.Recovery
import ChartScript.Proofs.Schema.Weathering
import ChartScript.Proofs.Script.Balance
import ChartScript.Proofs.Script.Declaration
import ChartScript.Proofs.Script.Guard
import ChartScript.Proofs.Script.Naming
import ChartScript.Proofs.Script.Node
import ChartScript.Proofs.Script.Piece
import ChartScript.Proofs.Script.Placement
import ChartScript.Proofs.Script.Rejection
import ChartScript.Proofs.Script.Transfer
import ChartScript.Proofs.Session.Account
import ChartScript.Proofs.Session.Gathering
import ChartScript.Proofs.Session.Race
import ChartScript.Proofs.Session.Report
import ChartScript.Proofs.Session.Step
import ChartScript.Proofs.Session.Stranded
import ChartScript.Proofs.Session.Unnoticed
import ChartScript.Proofs.System.Commit
import ChartScript.Proofs.System.Instruction
import ChartScript.Proofs.System.Log
import ChartScript.Proofs.System.Order
import ChartScript.Proofs.System.Unawaited
import ChartScript.Proofs.Wire.Finite
import ChartScript.Run.Spec
import ChartScript.Run.Status
import ChartScript.Schema.Field
import ChartScript.Schema.Record
import ChartScript.Schema.Violation
import ChartScript.Script.Arithmetic
import ChartScript.Script.Binding
import ChartScript.Script.Constant
import ChartScript.Script.Display
import ChartScript.Script.Environment
import ChartScript.Script.Format
import ChartScript.Script.Grammar.Cursor
import ChartScript.Script.Grammar.Expr
import ChartScript.Script.Grammar.Pattern
import ChartScript.Script.Grammar.Stmt
import ChartScript.Script.Guard
import ChartScript.Script.Key
import ChartScript.Script.Literal
import ChartScript.Script.Machine.Assign
import ChartScript.Script.Machine.Attribute
import ChartScript.Script.Machine.Basic
import ChartScript.Script.Machine.Call
import ChartScript.Script.Machine.Eval
import ChartScript.Script.Machine.Iterate
import ChartScript.Script.Machine.Match
import ChartScript.Script.Machine.Names
import ChartScript.Script.Machine.Resume
import ChartScript.Script.Machine.Step
import ChartScript.Script.Mathematics
import ChartScript.Script.Mention
import ChartScript.Script.Method.Arity
import ChartScript.Script.Method.Container
import ChartScript.Script.Method.Number
import ChartScript.Script.Method.Text
import ChartScript.Script.Module
import ChartScript.Script.Operation
import ChartScript.Script.Order
import ChartScript.Script.Program
import ChartScript.Script.Provided
import ChartScript.Script.Refusal
import ChartScript.Script.Scope.Capture
import ChartScript.Script.Scope.Check
import ChartScript.Script.Scope.Event
import ChartScript.Script.Slice
import ChartScript.Script.Sorting
import ChartScript.Script.Syntax
import ChartScript.Script.Token
import ChartScript.Script.Transfer
import ChartScript.Script.Types
import ChartScript.Script.Value
import ChartScript.Session.Basic
import ChartScript.Session.Event
import ChartScript.Session.Interpreter
import ChartScript.Session.Timeline
import ChartScript.Settings
import ChartScript.Text.CharClass
import ChartScript.Text.LetterCase
import ChartScript.Text.Prose
import ChartScript.Text.Quoted
import ChartScript.Text.Sha256
import ChartScript.Text.Utf8
import ChartScript.Wire.Json.Printer
import ChartScript.Wire.Json.Reader
import ChartScript.Wire.Mapping
import ChartScript.Wire.Value
import ChartScript.Proofs.Indicator.Diluted
import ChartScript.Proofs.Indicator.Smoothing
import ChartScript.Proofs.Indicator.Window
