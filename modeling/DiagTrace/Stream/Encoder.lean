import DiagTrace.Control.Registry
import DiagTrace.Line.Basic
import DiagTrace.Stream.Packet
import DiagTrace.Verbose.Encode

/-!
Writing lines as packets. The headers follow the features of a line; a field without its feature is not
written. Lines without a counter of their own take the next number of the encoder, and a line that cannot be
written leaves the encoder as it is.
-/
namespace DiagTrace.Stream

/-- The part of a packet that depends on the kind of its line. -/
structure Body where
  info : UInt8
  argumentCount : UInt8
  payload : Bytes
deriving DecidableEq

namespace Body

def verboseBit : UInt8 := 0x01

def isVerbose (body : Body) : Bool := body.info &&& verboseBit != 0

/-- The type of a line; one without a type of its own is written as information. -/
def writtenType (header : LineHeader) : MessageType :=
  if header.features.has .messageType && header.type != .unknown then header.type else .log .info

/-- A payload that was kept as it is, behind its message number. -/
def rawPayload (order : ByteOrder) (id : UInt32) : List Argument → Except Fault Bytes
  | [] => .ok (order.encode 4 id.toNat)
  | [.payload data] => .ok (order.encode 4 id.toNat ++ data)
  | _ => .error (.decodedArguments id)

/-- An ordinary message: verbose unless it has a message number and is not marked verbose. -/
def ofArguments (header : LineHeader) (messageId : Option UInt32) (arguments : List Argument) :
    Except Fault Body :=
  let bits := (writtenType header).bits
  let count := UInt8.ofNat arguments.length
  if 255 < arguments.length then .error (.tooManyArguments arguments.length)
  else
    match header.isVerbose, messageId with
    | false, some id => (rawPayload header.order id arguments).map fun data => ⟨bits, count, data⟩
    | _, _ =>
      (Verbose.argumentFields header.order arguments).map fun data =>
        ⟨bits ||| verboseBit, count, data⟩

def ofControl (registry : Control.Registry) (header : LineHeader) (payload : Control.Payload) :
    Except Fault Body :=
  (registry.encode header.order payload).map fun data => ⟨payload.type.bits, 0, data⟩

def ofLine (registry : Control.Registry) : Line → Except Fault Body
  | .normal header messageId arguments => ofArguments header messageId arguments
  | .control header payload => ofControl registry header payload
  | .skipped .. => .error .skippedLine

end Body

namespace Headers

/-- Control and verbose messages need the extended header, and so does any field that it holds. -/
def needsExtended (line : Line) (body : Body) : Bool :=
  match line with
  | .normal header .. =>
    body.isVerbose || header.features.has .appId || header.features.has .ctxId
      || header.features.has .messageType
  | _ => true

def written {α : Type} (header : LineHeader) (feature : Feature) (value : α) : Option α :=
  if header.features.has feature then some value else none

/-- The identifier of a field that is always there; zero without its feature. -/
def idOrZero (header : LineHeader) (feature : Feature) (id : String) : UInt32 :=
  if header.features.has feature then Ident.packed id else 0

/-- Whole ticks of a device time, as far as the counter reaches. -/
def ticks (time : Duration) : Except Fault UInt32 :=
  let count := time.nanoseconds / (tickMicroseconds * 1000)
  if count < Bytes.capacity 4 then .ok (UInt32.ofNat count) else .error (.deviceTimeTooLong time)

def ticksOf (header : LineHeader) : Except Fault (Option UInt32) :=
  match written header .deviceTimestamp header.deviceTime with
  | some time => (ticks time).map some
  | none => .ok none

def typeOf (header : LineHeader) (extended : Bool) : UInt8 :=
  let bit (present : Bool) (value : UInt8) : UInt8 := if present then value else 0
  HeaderType.version1 ||| bit extended HeaderType.extended
    ||| bit header.isBigEndian HeaderType.bigEndian
    ||| bit (header.features.has .ecuId) HeaderType.withEcuId
    ||| bit (header.features.has .sessionId) HeaderType.withSession
    ||| bit (header.features.has .deviceTimestamp) HeaderType.withTime

/-- Seconds and microseconds of a capture time; seconds are cut to their field. -/
def storageOf (header : LineHeader) : StorageHeader :=
  let time := (written header .logTimestamp header.time).getD .epoch
  { seconds := UInt32.ofNat (TwosComplement.encode 4 time.seconds)
    microseconds := UInt32.ofNat (time.nanoseconds / 1000)
    ecuId := idOrZero header .ecuId header.ecuId }

def extendedOf (header : LineHeader) (body : Body) : ExtendedHeader :=
  { info := body.info, argumentCount := body.argumentCount
    appId := idOrZero header .appId header.appId, ctxId := idOrZero header .ctxId header.ctxId }

def packetLength (type : UInt8) (body : Body) : Nat :=
  HeaderType.minimumLength type + body.payload.length

def ofLine (format : CaptureFormat) (count : UInt8) (line : Line) (body : Body) :
    Except Fault Headers := do
  let header := line.header
  let extended := needsExtended line body
  let type := typeOf header extended
  let ticks ← ticksOf header
  let length := packetLength type body
  if 65535 < length then throw (.packetTooLong length)
  return {
    storage := if format = .file then some (storageOf header) else none
    standard := {
      type, count, length := UInt16.ofNat length
      ecuId := written header .ecuId (Ident.packed header.ecuId)
      session := written header .sessionId header.session
      ticks }
    extended := if extended then some (extendedOf header body) else none }

end Headers

structure Encoder where
  format : CaptureFormat
  control : Control.Registry
  /-- The counter of the next line that has none. -/
  nextCount : UInt8

namespace Encoder

def start (format : CaptureFormat) : Encoder := ⟨format, .standard, 0⟩

/-- The packet of a line, and the encoder for the next line. -/
def encode (encoder : Encoder) (line : Line) : Except Fault (Bytes × Encoder) := do
  let body ← Body.ofLine encoder.control line
  let count := line.header.count.getD encoder.nextCount
  let headers ← Headers.ofLine encoder.format count line body
  return (headers.encode encoder.format ++ body.payload, { encoder with nextCount := count + 1 })

/-- Puts the packet of a line at the front of a buffer that has room for it; also returns its length. -/
def encodeInto (encoder : Encoder) (buffer : Bytes) (line : Line) :
    Except Fault (Nat × Bytes × Encoder) := do
  let (packet, next) ← encoder.encode line
  if buffer.hasAtLeast packet.length then
    return (packet.length, Bytes.overwrite buffer packet, next)
  else throw (.bufferTooSmall packet.length buffer.length)

end Encoder

end DiagTrace.Stream
