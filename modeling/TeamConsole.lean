import TeamConsole.ApprovalQueue
import TeamConsole.Board
import TeamConsole.Bootstrap
import TeamConsole.Command
import TeamConsole.CommandLine.Error
import TeamConsole.CommandLine.Reader
import TeamConsole.CommandLine.Shape
import TeamConsole.CommandLine.Usage
import TeamConsole.Connection
import TeamConsole.Console
import TeamConsole.Desk
import TeamConsole.Dialogue
import TeamConsole.Dict
import TeamConsole.Gateway.Call
import TeamConsole.Gateway.Error
import TeamConsole.Gateway.Http
import TeamConsole.Gateway.Request
import TeamConsole.Gateway.Server
import TeamConsole.Gateway.Wire
import TeamConsole.Invocation
import TeamConsole.Json.Basic
import TeamConsole.Json.Numeral
import TeamConsole.Json.Printer
import TeamConsole.Json.Reader
import TeamConsole.Json.Record
import TeamConsole.Json.Token
import TeamConsole.Main
import TeamConsole.Message
import TeamConsole.Notification
import TeamConsole.Number.Binary64
import TeamConsole.Number.Shortest
import TeamConsole.Proofs.ArrivalOrder
import TeamConsole.Proofs.Change
import TeamConsole.Proofs.Coherence
import TeamConsole.Proofs.ConfirmedValue
import TeamConsole.Proofs.DecidedTask
import TeamConsole.Proofs.Deed
import TeamConsole.Proofs.FrameEnvelope
import TeamConsole.Proofs.Freshness
import TeamConsole.Proofs.JsonGrammar
import TeamConsole.Proofs.KeySpelling
import TeamConsole.Proofs.LateBootstrap
import TeamConsole.Proofs.Loading
import TeamConsole.Proofs.NewestList
import TeamConsole.Proofs.PathSegments
import TeamConsole.Proofs.PushedFrame
import TeamConsole.Proofs.Queue
import TeamConsole.Proofs.QueueOrigin
import TeamConsole.Proofs.ReadBack
import TeamConsole.Proofs.Records
import TeamConsole.Proofs.Refusal
import TeamConsole.Proofs.RowReading
import TeamConsole.Proofs.Run
import TeamConsole.Proofs.SessionRun
import TeamConsole.Review
import TeamConsole.Session
import TeamConsole.Settings
import TeamConsole.Stream.Client
import TeamConsole.Stream.Framing
import TeamConsole.Stream.Source
import TeamConsole.Sync.Lists
import TeamConsole.Sync.Refresh
import TeamConsole.Sync.State
import TeamConsole.Task
import TeamConsole.Team
import TeamConsole.Text.Base64
import TeamConsole.Text.Blank
import TeamConsole.Text.CodeTable
import TeamConsole.Text.CombiningClass
import TeamConsole.Text.Composition
import TeamConsole.Text.Digits
import TeamConsole.Text.Mark
import TeamConsole.Text.Normal
import TeamConsole.Text.Split
import TeamConsole.Text.Utf8
import TeamConsole.Time.Date
import TeamConsole.Time.Instant
import TeamConsole.Toml.Basic
import TeamConsole.Toml.Reader
import TeamConsole.Toml.Scalar
import TeamConsole.Toml.Token
import TeamConsole.Transition
import TeamConsole.Url.Basic
import TeamConsole.Url.Direction
import TeamConsole.Url.Domain
import TeamConsole.Url.DomainMap
import TeamConsole.Url.DomainMap.Table
import TeamConsole.Url.Error
import TeamConsole.Url.Host
import TeamConsole.Url.Joining
import TeamConsole.Url.Percent
import TeamConsole.Url.Punycode
import TeamConsole.Url.Relative
import TeamConsole.Workflow.Encoding
import TeamConsole.Workflow.Error
import TeamConsole.Workflow.Stage
import TeamConsole.Workflow.Status
import TeamConsole.Workflow.Table
import TeamConsole.Proofs.InstantText
import TeamConsole.Proofs.JsonText
import TeamConsole.Proofs.CanonicalShape
import TeamConsole.Proofs.Delivery
import TeamConsole.Proofs.Transcript
import TeamConsole.Proofs.NotificationText
import TeamConsole.Proofs.OneMutation
import TeamConsole.Proofs.Announcement
import TeamConsole.Proofs.EdgeTable
import TeamConsole.Proofs.WorkflowFaults
import TeamConsole.Proofs.WorkflowRun
import TeamConsole.Proofs.StageNames
import TeamConsole.Proofs.QuietSpan
import TeamConsole.Proofs.RetryOrigin
import TeamConsole.Proofs.Retry
import TeamConsole.Proofs.Confirmation
import TeamConsole.Proofs.Execution
import TeamConsole.Proofs.UnstagedTask
import TeamConsole.Proofs.ClearedSelection
import TeamConsole.Proofs.UnstagedReview
import TeamConsole.Proofs.BoardColumns
import TeamConsole.Proofs.TomlRecords
import TeamConsole.Proofs.Trimming
import TeamConsole.Proofs.SettingsResolution
import TeamConsole.Proofs.RetryDelay
import TeamConsole.Proofs.ListEvents
import TeamConsole.Proofs.CallOutcome
