import Telemetry.Agent.Directive
import Telemetry.Agent.Display
import Telemetry.Agent.LogFilter
import Telemetry.Agent.Startup
import Telemetry.Capture.Upload
import Telemetry.Client.Basic
import Telemetry.Client.Error
import Telemetry.Client.Panics
import Telemetry.Client.Send
import Telemetry.Client.Transport
import Telemetry.Command.Kind
import Telemetry.Command.Registry
import Telemetry.Command.Reply
import Telemetry.Config.Agent
import Telemetry.Config.Client
import Telemetry.Config.Duration
import Telemetry.Config.Environment
import Telemetry.Config.Stats
import Telemetry.Decimal.Shortest
import Telemetry.Dictionary
import Telemetry.Http.Address
import Telemetry.Http.Body
import Telemetry.Http.Framing
import Telemetry.Http.Head
import Telemetry.Http.Header
import Telemetry.Http.Message
import Telemetry.Http.Status
import Telemetry.Http.Target
import Telemetry.Http.Wire
import Telemetry.Json.Document
import Telemetry.Json.Error
import Telemetry.Json.Numeral
import Telemetry.Json.Reader
import Telemetry.Json.Token
import Telemetry.Log
import Telemetry.Main
import Telemetry.Panic.Backtrace
import Telemetry.Panic.Payload
import Telemetry.Panic.Report
import Telemetry.Proofs.Capture.Lossless
import Telemetry.Proofs.Capture.OneUpload
import Telemetry.Proofs.Client.Headers
import Telemetry.Proofs.Client.Posting
import Telemetry.Proofs.Client.Sending
import Telemetry.Proofs.Client.Silence
import Telemetry.Proofs.Commands.Feedback
import Telemetry.Proofs.Commands.OncePerId
import Telemetry.Proofs.Commands.Replies
import Telemetry.Proofs.Commands.Selection
import Telemetry.Proofs.Config.Acceptance
import Telemetry.Proofs.Config.Variables
import Telemetry.Proofs.Dictionary
import Telemetry.Proofs.Failure
import Telemetry.Proofs.Http.Fields
import Telemetry.Proofs.Http.Target
import Telemetry.Proofs.Json.Building
import Telemetry.Proofs.Json.Grammar
import Telemetry.Proofs.Json.Lexing
import Telemetry.Proofs.Json.Line
import Telemetry.Proofs.Json.Number
import Telemetry.Proofs.Json.Quoting
import Telemetry.Proofs.Json.Record
import Telemetry.Proofs.Json.Soundness
import Telemetry.Proofs.Panic.CleanTrace
import Telemetry.Proofs.Panic.Lending
import Telemetry.Proofs.Panic.Message
import Telemetry.Proofs.Panic.OneReportEach
import Telemetry.Proofs.Panic.RoundTrip
import Telemetry.Proofs.Panic.Waiting
import Telemetry.Proofs.Requests.CountedStatus
import Telemetry.Proofs.Requests.HeaderKeys
import Telemetry.Proofs.Requests.Interception
import Telemetry.Proofs.Requests.ParentSpan
import Telemetry.Proofs.Requests.ResponseContent
import Telemetry.Proofs.Requests.ServiceAccounting
import Telemetry.Proofs.Requests.Snapshot
import Telemetry.Proofs.Response.Transparency
import Telemetry.Proofs.Server.Course
import Telemetry.Proofs.Session.Alone
import Telemetry.Proofs.Session.Duty
import Telemetry.Proofs.Session.Ending
import Telemetry.Proofs.Session.Prospect
import Telemetry.Proofs.Session.Run
import Telemetry.Proofs.Session.Turn
import Telemetry.Proofs.Stats.Conservation
import Telemetry.Proofs.Stats.CountedFirst
import Telemetry.Proofs.Stats.Flushing
import Telemetry.Proofs.Stats.RoundTrip
import Telemetry.Proofs.Stats.Total
import Telemetry.Proofs.Text.Base64
import Telemetry.Proofs.Text.Integer
import Telemetry.Proofs.Text.LetterCase
import Telemetry.Proofs.Text.Lowering
import Telemetry.Proofs.Text.Pieces
import Telemetry.Proofs.Text.Quoted
import Telemetry.Proofs.Text.Trimming
import Telemetry.Proofs.Text.Utf8
import Telemetry.Proofs.Traffic.Activity
import Telemetry.Proofs.Traffic.Effect
import Telemetry.Proofs.Traffic.Run
import Telemetry.Request.Demo
import Telemetry.Request.Interceptor
import Telemetry.Request.Service
import Telemetry.Request.Span
import Telemetry.Response.Buffer
import Telemetry.Response.Restricted
import Telemetry.Response.Tracer
import Telemetry.Response.Writer
import Telemetry.Server.Connection
import Telemetry.Server.Loop
import Telemetry.Server.Serve
import Telemetry.Stats.Counter
import Telemetry.Stats.Flusher
import Telemetry.Stats.Outcome
import Telemetry.Stats.Schedule
import Telemetry.Stats.Upload
import Telemetry.Text.Base64
import Telemetry.Text.Blank
import Telemetry.Text.CaseTable
import Telemetry.Text.CodeRange
import Telemetry.Text.Hexadecimal
import Telemetry.Text.Hidden
import Telemetry.Text.Integer
import Telemetry.Text.Letter
import Telemetry.Text.LetterCase
import Telemetry.Text.Pattern
import Telemetry.Text.Quoted
import Telemetry.Text.Utf8
