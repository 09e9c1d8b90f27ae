import LanguageBridge.Bridge
import LanguageBridge.Capability
import LanguageBridge.Catalogue
import LanguageBridge.Channel.Basic
import LanguageBridge.Channel.Command
import LanguageBridge.Channel.Fanout
import LanguageBridge.Channel.Pending
import LanguageBridge.Client.Basic
import LanguageBridge.Client.Command
import LanguageBridge.CommandLine.Ending
import LanguageBridge.CommandLine.Errand
import LanguageBridge.CommandLine.Grammar
import LanguageBridge.CommandLine.Invocation
import LanguageBridge.CommandLine.Output
import LanguageBridge.CommandLine.Rehearsal
import LanguageBridge.CommandLine.Visit
import LanguageBridge.Conversion.Completion
import LanguageBridge.Conversion.Edit
import LanguageBridge.Conversion.Hover
import LanguageBridge.Conversion.Marker
import LanguageBridge.Conversion.Range
import LanguageBridge.Conversion.Symbol
import LanguageBridge.Conversion.Token
import LanguageBridge.Duration
import LanguageBridge.Editor.Completion
import LanguageBridge.Editor.Edit
import LanguageBridge.Editor.Hover
import LanguageBridge.Editor.Marker
import LanguageBridge.Editor.Range
import LanguageBridge.Editor.Symbol
import LanguageBridge.Editor.Token
import LanguageBridge.Engine
import LanguageBridge.Error
import LanguageBridge.FileUri
import LanguageBridge.Frame
import LanguageBridge.Hook
import LanguageBridge.Json.Basic
import LanguageBridge.Json.Parser
import LanguageBridge.Json.Printer
import LanguageBridge.Json.Reading
import LanguageBridge.Link
import LanguageBridge.Location
import LanguageBridge.Main
import LanguageBridge.Message.Basic
import LanguageBridge.Message.Codec
import LanguageBridge.Method
import LanguageBridge.Number.Double
import LanguageBridge.Number.Shortest
import LanguageBridge.Path
import LanguageBridge.Profile
import LanguageBridge.Reader
import LanguageBridge.Session
import LanguageBridge.Settings.Basic
import LanguageBridge.Settings.File
import LanguageBridge.Settings.Reading
import LanguageBridge.Settings.Step
import LanguageBridge.Severity
import LanguageBridge.Storage
import LanguageBridge.Surface
import LanguageBridge.SymbolKind
import LanguageBridge.Text.Blank
import LanguageBridge.Text.Hidden
import LanguageBridge.Text.Lines
import LanguageBridge.Text.LowerCase
import LanguageBridge.Text.Numeral
import LanguageBridge.Text.Quoted
import LanguageBridge.Text.Split
import LanguageBridge.Text.Utf8
import LanguageBridge.Toml.Document
import LanguageBridge.Toml.Scalar
import LanguageBridge.Toml.Table
import LanguageBridge.Wire.Completion
import LanguageBridge.Wire.Diagnostic
import LanguageBridge.Wire.Edit
import LanguageBridge.Wire.Handshake
import LanguageBridge.Wire.Hover
import LanguageBridge.Wire.Position
import LanguageBridge.Wire.Symbol
import LanguageBridge.Wire.Token
import LanguageBridge.Writer
import LanguageBridge.Proofs.Lookup
import LanguageBridge.Proofs.Pending
import LanguageBridge.Proofs.Holding
import LanguageBridge.Proofs.Isolation
import LanguageBridge.Proofs.Numeral
import LanguageBridge.Proofs.Exchange
import LanguageBridge.Proofs.Writing
import LanguageBridge.Proofs.Office
import LanguageBridge.Proofs.History
import LanguageBridge.Proofs.Correlation
import LanguageBridge.Proofs.Json.Order
import LanguageBridge.Proofs.Json.Text
import LanguageBridge.Proofs.Json.Grammar
import LanguageBridge.Proofs.Json.Numerals
import LanguageBridge.Proofs.Reading
import LanguageBridge.Proofs.RoundTrip
import LanguageBridge.Proofs.Recognition
import LanguageBridge.Proofs.Canonical
import LanguageBridge.Proofs.Declaration
import LanguageBridge.Proofs.Arrangement
import LanguageBridge.Proofs.Source
import LanguageBridge.Proofs.Utf8
import LanguageBridge.Proofs.Blank
import LanguageBridge.Proofs.Framing
import LanguageBridge.Proofs.Census
import LanguageBridge.Proofs.Inbound
import LanguageBridge.Proofs.Transport
import LanguageBridge.Proofs.Traffic
import LanguageBridge.Proofs.Attachment
import LanguageBridge.Proofs.Loops
import LanguageBridge.Proofs.Course
import LanguageBridge.Proofs.Surroundings
import LanguageBridge.Proofs.Chronicle
import LanguageBridge.Proofs.Hooks
import LanguageBridge.Proofs.Lifecycle
import LanguageBridge.Proofs.Refusal
import LanguageBridge.Proofs.Display
import LanguageBridge.Proofs.Markers
import LanguageBridge.Proofs.Attendance
import LanguageBridge.Proofs.Service
import LanguageBridge.Proofs.Desk
import LanguageBridge.Proofs.Subscribers
import LanguageBridge.Proofs.Closing
import LanguageBridge.Proofs.Cancellation
import LanguageBridge.Proofs.Replies
import LanguageBridge.Proofs.Variants
import LanguageBridge.Proofs.HoverTexts
import LanguageBridge.Proofs.Rereading
import LanguageBridge.Proofs.Containment
import LanguageBridge.Proofs.Resolution
import LanguageBridge.Proofs.ByteOrder
import LanguageBridge.Proofs.Flattening
import LanguageBridge.Proofs.RenameEdits
import LanguageBridge.Proofs.Places
import LanguageBridge.Proofs.Offsets
import LanguageBridge.Proofs.UriText
import LanguageBridge.Proofs.Deadlines
import LanguageBridge.Proofs.Outline
import LanguageBridge.Proofs.Audience
import LanguageBridge.Proofs.Registry
import LanguageBridge.Proofs.Storage
import LanguageBridge.Proofs.Spans
import LanguageBridge.Proofs.Progress
import LanguageBridge.Proofs.InForce
import LanguageBridge.Proofs.Safekeeping
