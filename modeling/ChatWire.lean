import ChatWire.Text.Utf8
import ChatWire.Text.Blank
import ChatWire.Text.Printable
import ChatWire.Text.Extending
import ChatWire.Text.Literal
import ChatWire.Text.CodeTable
import ChatWire.Text.CombiningClass
import ChatWire.Text.Decomposition
import ChatWire.Text.Compose
import ChatWire.Domain.Mapping
import ChatWire.Domain.Direction
import ChatWire.Domain.Marks
import ChatWire.Domain.Joining
import ChatWire.Domain.Punycode
import ChatWire.Domain.Ascii
import ChatWire.Json.Binary64
import ChatWire.Json.Shortest
import ChatWire.Json.Value
import ChatWire.Json.Render
import ChatWire.Json.Debug
import ChatWire.Json.ReadError
import ChatWire.Json.Shape
import ChatWire.Json.Reader
import ChatWire.Wire.FinishReason
import ChatWire.Wire.Part
import ChatWire.Wire.Sink
import ChatWire.Wire.Writer
import ChatWire.History.Message
import ChatWire.History.Uuid
import ChatWire.History.Uuid.Parse
import ChatWire.History.Store
import ChatWire.Stream.ToolCall
import ChatWire.Stream.Chunk
import ChatWire.Stream.Pipe
import ChatWire.Tool.Result
import ChatWire.Tool.Clock
import ChatWire.Tool.Registry
import ChatWire.Toml.Token
import ChatWire.Toml.Document
import ChatWire.Toml.Syntax
import ChatWire.Toml.Datetime
import ChatWire.Toml.Scalar
import ChatWire.Toml.Parser
import ChatWire.Config.Basic
import ChatWire.Host.Files
import ChatWire.Config.Load
import ChatWire.Provider.Basic
import ChatWire.Provider.Url
import ChatWire.Provider.Http
import ChatWire.Provider.Sse
import ChatWire.Provider.Compat
import ChatWire.Provider.Mock
import ChatWire.Provider.Factory
import ChatWire.Turn.Basic
import ChatWire.Turn.Reply
import ChatWire.Turn.Service
import ChatWire.Cli.Similar
import ChatWire.Cli.Args
import ChatWire.Cli.Report
import ChatWire.Cli.Program
import ChatWire.Main
import ChatWire.Proofs.Writer
import ChatWire.Proofs.Accumulator
import ChatWire.Proofs.Reply
import ChatWire.Proofs.ToolView
import ChatWire.Proofs.Delivery
import ChatWire.Proofs.Transcript
import ChatWire.Proofs.History
import ChatWire.Proofs.Text
import ChatWire.Proofs.JsonRead
import ChatWire.Proofs.JsonRoundTrip
import ChatWire.Proofs.Framing
import ChatWire.Proofs.Pipe
import ChatWire.Proofs.ToolParts
import ChatWire.Proofs.Truncation
import ChatWire.Proofs.WriterState
import ChatWire.Proofs.Persistence
import ChatWire.Proofs.FinishReason
import ChatWire.Proofs.BeforeReply
import ChatWire.Proofs.StreamDecoding
import ChatWire.Proofs.WellFormedParts
import ChatWire.Proofs.SessionLog
import ChatWire.Proofs.ToolRegistry
import ChatWire.Proofs.ProviderChoice
import ChatWire.Proofs.ToolArguments
import ChatWire.Proofs.LineMode
import ChatWire.Proofs.ChannelReply
