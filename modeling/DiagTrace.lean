import DiagTrace.Argument.Basic
import DiagTrace.Argument.Conversion
import DiagTrace.Argument.Equality
import DiagTrace.Argument.Text
import DiagTrace.Builder
import DiagTrace.Bytes.Cursor
import DiagTrace.Bytes.Field
import DiagTrace.Bytes.Order
import DiagTrace.Calendar
import DiagTrace.CaptureFormat
import DiagTrace.CommandLine.Directory
import DiagTrace.CommandLine.Options
import DiagTrace.CommandLine.Preferences
import DiagTrace.CommandLine.Run
import DiagTrace.Config
import DiagTrace.Control.Encode
import DiagTrace.Control.Layout
import DiagTrace.Control.Payload
import DiagTrace.Control.Registry
import DiagTrace.Control.Role
import DiagTrace.Control.ServiceId
import DiagTrace.Control.Text
import DiagTrace.Decimal.Binary
import DiagTrace.Decimal.Fixed
import DiagTrace.Decimal.Shortest
import DiagTrace.Fault
import DiagTrace.Feature
import DiagTrace.Frame.Basic
import DiagTrace.Frame.Json
import DiagTrace.Frame.Map
import DiagTrace.Header.Extended
import DiagTrace.Header.Standard
import DiagTrace.Header.Storage
import DiagTrace.Ident
import DiagTrace.Ident.Cache
import DiagTrace.Json.Token
import DiagTrace.Json.Value
import DiagTrace.Line.Basic
import DiagTrace.Line.Equality
import DiagTrace.Line.Text
import DiagTrace.Main
import DiagTrace.MessageType
import DiagTrace.NonVerbose.Codec
import DiagTrace.NonVerbose.Message
import DiagTrace.NonVerbose.WireType
import DiagTrace.Proofs.Bytes.Reading
import DiagTrace.Proofs.Bytes.Yielding
import DiagTrace.Proofs.Control.Fits
import DiagTrace.Proofs.Control.History
import DiagTrace.Proofs.Control.Padding
import DiagTrace.Proofs.Control.Reading
import DiagTrace.Proofs.Control.RoundTrip
import DiagTrace.Proofs.Feature
import DiagTrace.Proofs.Frame.Loading
import DiagTrace.Proofs.Header.RoundTrip
import DiagTrace.Proofs.Stream.Accounting
import DiagTrace.Proofs.Stream.Applied
import DiagTrace.Proofs.Stream.Chunking
import DiagTrace.Proofs.Stream.Encoding
import DiagTrace.Proofs.Stream.Finding
import DiagTrace.Proofs.Stream.Fits
import DiagTrace.Proofs.Stream.Framing
import DiagTrace.Proofs.Stream.Headers
import DiagTrace.Proofs.Stream.NonVerbose
import DiagTrace.Proofs.Stream.Origin
import DiagTrace.Proofs.Stream.Packet
import DiagTrace.Proofs.Stream.PacketRoundTrip
import DiagTrace.Proofs.Stream.PlainScan
import DiagTrace.Proofs.Stream.Reading
import DiagTrace.Proofs.Stream.Refusing
import DiagTrace.Proofs.Stream.Reports
import DiagTrace.Proofs.Stream.Resync
import DiagTrace.Proofs.Stream.Rewriting
import DiagTrace.Proofs.Stream.RoundTrip
import DiagTrace.Proofs.Stream.Session
import DiagTrace.Proofs.Stream.Sweep
import DiagTrace.Proofs.Text.RoundTrip
import DiagTrace.Proofs.Verbose.Fits
import DiagTrace.Proofs.Verbose.Reading
import DiagTrace.Proofs.Verbose.Rewriting
import DiagTrace.Proofs.Verbose.RoundTrip
import DiagTrace.Proofs.Verbose.Values
import DiagTrace.Stream.Decoder
import DiagTrace.Stream.Encoder
import DiagTrace.Stream.Finding
import DiagTrace.Stream.Headers
import DiagTrace.Stream.Packet
import DiagTrace.Stream.Pass
import DiagTrace.Stream.Setup
import DiagTrace.Text.Hex
import DiagTrace.Text.Latin1
import DiagTrace.Text.Quoted
import DiagTrace.Text.Shapeless
import DiagTrace.Text.Unassigned
import DiagTrace.Text.Utf8
import DiagTrace.Toml.Reader
import DiagTrace.Toml.Value
import DiagTrace.Verbose.Decode
import DiagTrace.Verbose.Encode
import DiagTrace.Verbose.TypeInfo
import DiagTrace.Width
import DiagTrace.Proofs.Bytes.Delimiting
import DiagTrace.Proofs.Stream.Agreement
import DiagTrace.Proofs.Verbose.Extent
import DiagTrace.Proofs.Verbose.Truncation
import DiagTrace.Proofs.Verbose.Shape
import DiagTrace.Proofs.Control.Rewriting
import DiagTrace.Proofs.Frame.Lookup
import DiagTrace.Proofs.NonVerbose.Grammar
import DiagTrace.Proofs.Stream.Regularity
import DiagTrace.Proofs.Stream.Soundness
import DiagTrace.Proofs.Stream.Times
import DiagTrace.Proofs.NonVerbose.Extent
import DiagTrace.Proofs.NonVerbose.Filling
import DiagTrace.Proofs.Stream.Progress
import DiagTrace.Proofs.Builder.Restart
import DiagTrace.Proofs.Builder.Bookkeeping
import DiagTrace.Proofs.Header.Inverse
import DiagTrace.Proofs.Ident.Normal
import DiagTrace.Proofs.Ident.Cache
import DiagTrace.Proofs.Bytes.Attempt
import DiagTrace.Proofs.Text.Lossless
