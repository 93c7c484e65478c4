import MetricAlerts.Alert
import MetricAlerts.AlertStore
import MetricAlerts.Analysis
import MetricAlerts.BroadcastCopy
import MetricAlerts.Channel
import MetricAlerts.Comparison
import MetricAlerts.Console
import MetricAlerts.Definitions.Basic
import MetricAlerts.Definitions.Builtin
import MetricAlerts.Definitions.Registry
import MetricAlerts.Dict
import MetricAlerts.Engine
import MetricAlerts.Enrichment
import MetricAlerts.Evaluation
import MetricAlerts.Event
import MetricAlerts.Http.Escape
import MetricAlerts.Http.MediaType
import MetricAlerts.Http.Request
import MetricAlerts.Http.Resource
import MetricAlerts.Http.Service
import MetricAlerts.Http.Target
import MetricAlerts.Http.Token
import MetricAlerts.Json.Basic
import MetricAlerts.Json.Document
import MetricAlerts.Json.Form
import MetricAlerts.Json.Parser
import MetricAlerts.Json.Printer
import MetricAlerts.Json.Record
import MetricAlerts.Notification
import MetricAlerts.Number.Decimal
import MetricAlerts.Number.Numeral
import MetricAlerts.Number.Text
import MetricAlerts.Query.Basic
import MetricAlerts.Query.Parser
import MetricAlerts.Query.Resolve
import MetricAlerts.Realtime.Hub
import MetricAlerts.Realtime.Message
import MetricAlerts.Remote.Analyzer
import MetricAlerts.Remote.Delivery
import MetricAlerts.Remote.Domain
import MetricAlerts.Remote.Mailbox
import MetricAlerts.Remote.Network
import MetricAlerts.Rule
import MetricAlerts.Schedule
import MetricAlerts.Settings
import MetricAlerts.Severity
import MetricAlerts.System.Basic
import MetricAlerts.System.Gate
import MetricAlerts.System.Progress
import MetricAlerts.System.Run
import MetricAlerts.System.Script
import MetricAlerts.System.Task
import MetricAlerts.Template
import MetricAlerts.Text.Blank
import MetricAlerts.Text.CaseTable
import MetricAlerts.Text.CharClass
import MetricAlerts.Text.InvisibleTable
import MetricAlerts.Text.LetterTable
import MetricAlerts.Text.LowerCase
import MetricAlerts.Text.Pieces
import MetricAlerts.Text.Punycode
import MetricAlerts.Text.Quoted
import MetricAlerts.Timestamp
import MetricAlerts.Toml.Basic
import MetricAlerts.Toml.Lexer
import MetricAlerts.Toml.Parser
import MetricAlerts.Proofs.Store.Edit
import MetricAlerts.Proofs.Store.Sound
import MetricAlerts.Proofs.Store.Run
import MetricAlerts.Proofs.Store.View
import MetricAlerts.Proofs.Engine.Run
import MetricAlerts.Proofs.Engine.Replay
import MetricAlerts.Proofs.Engine.Lifecycle
import MetricAlerts.Proofs.Realtime.Clients
import MetricAlerts.Proofs.Realtime.Feed
import MetricAlerts.Proofs.Realtime.Convergence
import MetricAlerts.Proofs.System.Frame
import MetricAlerts.Proofs.System.Steps
import MetricAlerts.Proofs.System.DispatchLoop
import MetricAlerts.Proofs.Store.Log
import MetricAlerts.Proofs.Store.Conservation
import MetricAlerts.Proofs.Engine.Turns
import MetricAlerts.Proofs.Store.Addressing
import MetricAlerts.Proofs.Engine.Addressing
import MetricAlerts.Proofs.Text.Trim
import MetricAlerts.Proofs.Text.Pieces
import MetricAlerts.Proofs.Dict
import MetricAlerts.Proofs.Number
import MetricAlerts.Proofs.Query.Quotes
import MetricAlerts.Proofs.Query.Cuts
import MetricAlerts.Proofs.Query.Reading
import MetricAlerts.Proofs.Query.Grammar
import MetricAlerts.Proofs.Query.Weight
import MetricAlerts.Proofs.Query.Canonical
import MetricAlerts.Proofs.Json.Records
import MetricAlerts.Proofs.Json.Rule
import MetricAlerts.Proofs.Definitions.Registry
import MetricAlerts.Proofs.Definitions.Loading
import MetricAlerts.Proofs.Engine.Levels
import MetricAlerts.Proofs.Engine.Undertakings
import MetricAlerts.Proofs.Engine.Newness
import MetricAlerts.Proofs.Engine.Deletion
import MetricAlerts.Proofs.System.Undertakings
import MetricAlerts.Proofs.Realtime.Deliveries
import MetricAlerts.Proofs.Realtime.Operations
import MetricAlerts.Proofs.Realtime.Audience
import MetricAlerts.Proofs.Engine.Definitions
import MetricAlerts.Proofs.Dispatch.Notices
import MetricAlerts.Proofs.Dispatch.Outbox
import MetricAlerts.Proofs.Dispatch.Pairing
import MetricAlerts.Proofs.Dispatch.Incidents
import MetricAlerts.Proofs.Engine.Agreement
import MetricAlerts.Proofs.Dispatch.Feedback
import MetricAlerts.Proofs.System.Begins
import MetricAlerts.Proofs.System.Mail
import MetricAlerts.Proofs.System.Checks
import MetricAlerts.Proofs.System.Operations
import MetricAlerts.Proofs.System.Mute
import MetricAlerts.Proofs.System.Hushed
import MetricAlerts.Proofs.System.Silence
import MetricAlerts.Proofs.System.Balance
import MetricAlerts.Proofs.System.Payments
import MetricAlerts.Proofs.System.Outcomes
import MetricAlerts.Proofs.System.Headway
import MetricAlerts.Proofs.System.Quiescence
import MetricAlerts.Proofs.Definitions.Changes
import MetricAlerts.Proofs.Engine.Independence
import MetricAlerts.Proofs.Store.Copies
import MetricAlerts.Proofs.Engine.Operations
import MetricAlerts.Proofs.Store.Annotations
import MetricAlerts.Proofs.Engine.Annotations
import MetricAlerts.Proofs.Engine.Overlay
import MetricAlerts.Proofs.System.Annotations
import MetricAlerts.Proofs.Json.Ordered
import MetricAlerts.Proofs.Time.Calendar
import MetricAlerts.Proofs.Time.Reading
import MetricAlerts.Proofs.Json.Alert
import MetricAlerts.Proofs.Json.BroadcastCopy
import MetricAlerts.Proofs.Json.Channel
import MetricAlerts.Proofs.Engine.Commands
import MetricAlerts.Proofs.Http.Commands
import MetricAlerts.Proofs.Dispatch.Loop
import MetricAlerts.Proofs.Dispatch.Watch
import MetricAlerts.Proofs.Dispatch.Handovers
import MetricAlerts.Proofs.Dispatch.Restarts
import MetricAlerts.Proofs.Dispatch.Patterns
import MetricAlerts.Proofs.System.Duties
import MetricAlerts.Proofs.System.Patterns
import MetricAlerts.Proofs.System.Tasks
import MetricAlerts.Proofs.System.Watched
import MetricAlerts.Proofs.System.Service
import MetricAlerts.Proofs.System.Attended
import MetricAlerts.Proofs.System.Notified
import MetricAlerts.Proofs.Query.Search
import MetricAlerts.Proofs.Query.Paths
import MetricAlerts.Proofs.Query.Weakening
import MetricAlerts.Proofs.Text.Template
import MetricAlerts.Proofs.Store.Supersession
import MetricAlerts.Proofs.Engine.Account
import MetricAlerts.Proofs.System.Turns
import MetricAlerts.Proofs.System.Accounts
import MetricAlerts.Proofs.Engine.Detection
import MetricAlerts.Proofs.System.Detection
import MetricAlerts.Proofs.Dispatch.Channels
import MetricAlerts.Proofs.System.Deliveries
import MetricAlerts.Proofs.System.Dispatches
