import Cellbook.Cell.Balance
import Cellbook.Cell.Parts
import Cellbook.Channel.Backends
import Cellbook.Channel.Basic
import Cellbook.Channel.Writer
import Cellbook.CommandLine.Argument
import Cellbook.CommandLine.Fault
import Cellbook.CommandLine.Help
import Cellbook.CommandLine.Reading
import Cellbook.CommandLine.Report
import Cellbook.CommandLine.Similarity
import Cellbook.CommandLine.Value
import Cellbook.Decimal.Layout
import Cellbook.Decimal.Shortest
import Cellbook.Disk.Basic
import Cellbook.Disk.Path
import Cellbook.Engine.Engine
import Cellbook.Engine.Evaluator
import Cellbook.Engine.Execution
import Cellbook.Engine.Fault
import Cellbook.Engine.Registry
import Cellbook.Headless.Run
import Cellbook.Headless.Transcript
import Cellbook.Host.Files
import Cellbook.Host.Listener
import Cellbook.Http.Percent
import Cellbook.Http.Request
import Cellbook.Http.Response
import Cellbook.Http.Uri
import Cellbook.IoFault
import Cellbook.Json.Compact
import Cellbook.Json.Cursor
import Cellbook.Json.Decode
import Cellbook.Json.Fault
import Cellbook.Json.Number
import Cellbook.Json.Quoted
import Cellbook.Json.Skip
import Cellbook.Json.Unquoted
import Cellbook.Main
import Cellbook.Notebook.Document
import Cellbook.Notebook.Name
import Cellbook.Notebook.Stored
import Cellbook.Output.Routing
import Cellbook.Proofs.Channel.Delivery
import Cellbook.Proofs.Channel.Limit
import Cellbook.Proofs.Engine.Course
import Cellbook.Proofs.Engine.Departure
import Cellbook.Proofs.Engine.Framing
import Cellbook.Proofs.Engine.History
import Cellbook.Proofs.Engine.Interleaving
import Cellbook.Proofs.Engine.Linearization
import Cellbook.Proofs.Engine.Placement
import Cellbook.Proofs.Engine.Registry
import Cellbook.Proofs.Json.Cursor
import Cellbook.Proofs.Json.Members
import Cellbook.Proofs.Json.Quoted
import Cellbook.Proofs.Radio.Outlet
import Cellbook.Proofs.Radio.Session
import Cellbook.Proofs.Rendering.ReadBack
import Cellbook.Proofs.Rendering.Written
import Cellbook.Proofs.Server.Streaming
import Cellbook.Proofs.Text.Base64
import Cellbook.Proofs.Text.Utf8
import Cellbook.Radio.Channel
import Cellbook.Radio.Command
import Cellbook.Radio.Gatt
import Cellbook.Radio.Repl
import Cellbook.Radio.Simulated
import Cellbook.Rendering.Bundle
import Cellbook.Rendering.Capability
import Cellbook.Rendering.Rendered
import Cellbook.Script.Arithmetic
import Cellbook.Script.Environment
import Cellbook.Script.Evaluation.Call
import Cellbook.Script.Evaluation.Chain
import Cellbook.Script.Evaluation.Expression
import Cellbook.Script.Evaluation.Machine
import Cellbook.Script.Evaluation.Statement
import Cellbook.Script.Evaluator
import Cellbook.Script.Fault
import Cellbook.Script.Grammar.Basic
import Cellbook.Script.Grammar.Expression
import Cellbook.Script.Grammar.Statement
import Cellbook.Script.Lexer
import Cellbook.Script.Library
import Cellbook.Script.Library.Collection
import Cellbook.Script.Library.Number
import Cellbook.Script.Library.Rich
import Cellbook.Script.Library.Text
import Cellbook.Script.Operator
import Cellbook.Script.Parse
import Cellbook.Script.Position
import Cellbook.Script.Quotation
import Cellbook.Script.Show
import Cellbook.Script.Simplify
import Cellbook.Script.Syntax
import Cellbook.Script.SyntaxFault
import Cellbook.Script.Token
import Cellbook.Script.Value
import Cellbook.Server.Address
import Cellbook.Server.Fault
import Cellbook.Server.Handler
import Cellbook.Server.Message
import Cellbook.Server.Page
import Cellbook.Server.Queue
import Cellbook.Server.Route
import Cellbook.Server.Router
import Cellbook.Store.Basic
import Cellbook.Store.Directory
import Cellbook.Store.Failing
import Cellbook.Store.Memory
import Cellbook.Terminal
import Cellbook.Text.Base64
import Cellbook.Text.Case
import Cellbook.Text.Cut
import Cellbook.Text.Property
import Cellbook.Text.Quoted
import Cellbook.Text.Utf8
import Cellbook.Version
import Cellbook.Proofs.Output.Redirections
import Cellbook.Proofs.Output.Stack
import Cellbook.Proofs.Output.DropOrder
import Cellbook.Proofs.Engine.Parallel
import Cellbook.Proofs.Engine.Apart
import Cellbook.Proofs.Notebook.Name
import Cellbook.Proofs.Server.Routing
import Cellbook.Proofs.Server.Documents
import Cellbook.Proofs.Engine.Generations
import Cellbook.Proofs.Channel.Writer
import Cellbook.Proofs.Server.Draining
import Cellbook.Proofs.Radio.Notifications
import Cellbook.Proofs.Channel.Transports
import Cellbook.Proofs.Disk.Walk
import Cellbook.Proofs.Store.Laws
import Cellbook.Proofs.Server.Frame
import Cellbook.Proofs.Server.Running
import Cellbook.Proofs.Cell.Balance
import Cellbook.Proofs.Script.Complete
import Cellbook.Proofs.Server.Listing
import Cellbook.Proofs.Headless.Run
import Cellbook.Proofs.Text.Pieces
import Cellbook.Proofs.Cell.LineEnds
import Cellbook.Proofs.Cell.Lines
import Cellbook.Proofs.Cell.Lossless
import Cellbook.Proofs.Channel.Lines
import Cellbook.Proofs.Radio.Reports
import Cellbook.Proofs.Radio.Input
import Cellbook.Proofs.Script.Transparency
import Cellbook.Proofs.Rendering.Interrupted
import Cellbook.Proofs.Store.Containment
import Cellbook.Proofs.Script.Definitions
import Cellbook.Proofs.Json.Number
import Cellbook.Proofs.Rendering.Insertion
import Cellbook.Proofs.Rendering.Nested
import Cellbook.Proofs.Text.Order
import Cellbook.Proofs.Script.Chained
import Cellbook.Proofs.Server.Entries
import Cellbook.Proofs.Notebook.Rearranged
