import ScriptLink.Argument.Basic
import ScriptLink.Argument.Settings
import ScriptLink.Argument.Split
import ScriptLink.Channel.Basic
import ScriptLink.Channel.Exchange
import ScriptLink.Channel.Pair
import ScriptLink.Channel.Queue
import ScriptLink.Channel.Slot
import ScriptLink.Channel.Stream
import ScriptLink.Channel.Transport
import ScriptLink.Config.Basic
import ScriptLink.Config.Choice
import ScriptLink.Config.Flag
import ScriptLink.Config.Layer
import ScriptLink.Config.Runtime
import ScriptLink.Config.SettingsFile
import ScriptLink.Config.Token
import ScriptLink.Config.Toml.Bare
import ScriptLink.Config.Toml.Document
import ScriptLink.Config.Toml.Draft
import ScriptLink.Config.Toml.Moment
import ScriptLink.Config.Toml.Text
import ScriptLink.Config.Variable
import ScriptLink.Frame.Basic
import ScriptLink.Frame.Decode
import ScriptLink.Frame.External
import ScriptLink.Host.Bootstrap
import ScriptLink.Host.Drive
import ScriptLink.Host.Milestone
import ScriptLink.HostCall.Basic
import ScriptLink.HostCall.Ledger
import ScriptLink.HostCall.Operation
import ScriptLink.Json.Mismatch
import ScriptLink.Json.Printer
import ScriptLink.Json.Reader
import ScriptLink.Json.Shape
import ScriptLink.Json.Value
import ScriptLink.Launch.Run
import ScriptLink.Launch.Schedule
import ScriptLink.Launch.System
import ScriptLink.Main
import ScriptLink.Module.Builtin
import ScriptLink.Module.Fallback
import ScriptLink.Module.Fault
import ScriptLink.Module.Handler
import ScriptLink.Module.Loader
import ScriptLink.Module.Memory
import ScriptLink.Module.Recipe
import ScriptLink.Module.Registry
import ScriptLink.Number.Binary64
import ScriptLink.Number.Shortest
import ScriptLink.Session.Dispatch
import ScriptLink.Session.Fault
import ScriptLink.Session.Run
import ScriptLink.Session.State
import ScriptLink.Target.FileTree
import ScriptLink.Target.Path
import ScriptLink.Target.Resolve
import ScriptLink.Text.Blank
import ScriptLink.Text.Quoted
import ScriptLink.Text.UpperCase
import ScriptLink.Text.UpperCase.Table
import ScriptLink.Text.Utf8
import ScriptLink.Text.Visible.Table
import ScriptLink.Url.File
import ScriptLink.Url.Host
import ScriptLink.Url.Percent
import ScriptLink.Proofs.Json.Canonical
import ScriptLink.Proofs.Json.RoundTrip
import ScriptLink.Proofs.Frame.RoundTrip
import ScriptLink.Proofs.Channel.Transport
import ScriptLink.Proofs.Session.Replies
import ScriptLink.Proofs.Session.Transcript
import ScriptLink.Proofs.Number.Rounding
import ScriptLink.Proofs.Number.Shortest
import ScriptLink.Proofs.Json.Reading
import ScriptLink.Proofs.Json.Grammar
import ScriptLink.Proofs.Json.Tokens
import ScriptLink.Proofs.Json.Acceptance
import ScriptLink.Proofs.Frame.Portable
import ScriptLink.Proofs.Module.Careful
import ScriptLink.Proofs.Session.Careful
import ScriptLink.Proofs.Host.Drive
import ScriptLink.Proofs.Launch.Turn
import ScriptLink.Proofs.Launch.Delivery
import ScriptLink.Proofs.Launch.Pacing
import ScriptLink.Proofs.Launch.Agreement
import ScriptLink.Proofs.Session.History
import ScriptLink.Proofs.Session.Isolation
import ScriptLink.Proofs.Launch.Attribution
import ScriptLink.Proofs.Session.Resemblance
import ScriptLink.Proofs.Frame.External
import ScriptLink.Proofs.Host.Persistent
import ScriptLink.Proofs.Launch.Intake
import ScriptLink.Proofs.Launch.Foresight
import ScriptLink.Proofs.Launch.Steadfast
import ScriptLink.Proofs.Launch.Termination
import ScriptLink.Proofs.Launch.Confluence
import ScriptLink.Proofs.Text.Utf8
import ScriptLink.Proofs.Channel.Stream
import ScriptLink.Proofs.Session.Medium
import ScriptLink.Proofs.Host.OneShot
import ScriptLink.Proofs.Host.PersistentDrive
import ScriptLink.Proofs.Frame.Reading
import ScriptLink.Proofs.Host.Forwarding
import ScriptLink.Proofs.Host.Answer
import ScriptLink.Proofs.Module.Finder
import ScriptLink.Proofs.Module.Installed
import ScriptLink.Proofs.Session.Handlers
import ScriptLink.Proofs.Module.Noted
import ScriptLink.Proofs.Session.Hooks
import ScriptLink.Proofs.Session.Pending
import ScriptLink.Proofs.Session.Unknown
import ScriptLink.Proofs.Launch.Reason
import ScriptLink.Proofs.Frame.Fields
import ScriptLink.Proofs.Frame.Lines
import ScriptLink.Proofs.Module.Search
import ScriptLink.Proofs.Session.Beginning
import ScriptLink.Proofs.Record
import ScriptLink.Proofs.Session.Opening
import ScriptLink.Proofs.Channel.Delivery
import ScriptLink.Proofs.Url.Percent
import ScriptLink.Proofs.Url.Path
import ScriptLink.Proofs.Url.Host
import ScriptLink.Proofs.Url.Reading
import ScriptLink.Proofs.Module.Candidates
import ScriptLink.Proofs.Argument.Roles
import ScriptLink.Proofs.Argument.Normal
import ScriptLink.Proofs.Json.Printed
import ScriptLink.Proofs.Channel.Pieces
import ScriptLink.Proofs.Channel.Reader
import ScriptLink.Proofs.Channel.Framing
import ScriptLink.Proofs.Text.Trim
import ScriptLink.Proofs.Config.Segments
import ScriptLink.Proofs.Config.Precedence
import ScriptLink.Proofs.Json.Record
import ScriptLink.Proofs.Config.Runtime
import ScriptLink.Proofs.Target.Resolve
import ScriptLink.Proofs.Host.Bootstrap
