import DiagTrace.Builder
import DiagTrace.Control.Registry
import DiagTrace.NonVerbose.Message
import DiagTrace.Stream.Headers

/-!
One packet of a stream, read into the line that is being filled in. A control message may be followed by a
few bytes without a meaning; the arguments of a verbose message use up its payload; any other payload is a
non-verbose message.
-/
namespace DiagTrace.Stream

/-- What a reader of packets knows: the framing and the services, types and frames. -/
structure Setting where
  format : CaptureFormat
  control : Control.Registry
  nonVerbose : NonVerbose.Codec

/-- Microseconds in one tick of the device time. -/
def tickMicroseconds : Nat := 100

def deviceTime (ticks : UInt32) : Duration := ⟨ticks.toNat * tickMicroseconds * 1000⟩

namespace Headers

def setIf {α : Type} (builder : Builder) (value : Option α) (set : Builder → α → Builder) : Builder :=
  match value with
  | some value => set builder value
  | none => builder

def applyStorage (builder : Builder) (header : StorageHeader) : Builder :=
  (builder.setTimeParts header.seconds header.microseconds).setStorageEcuId (Ident.text header.ecuId)

def applyStandard (builder : Builder) (header : StandardHeader) : Builder :=
  let builder := (builder.setBigEndian header.isBigEndian).setCount header.count
  let builder := setIf builder (header.ecuId.map Ident.text) Builder.setEcuId
  let builder := setIf builder header.session Builder.setSession
  setIf builder (header.ticks.map deviceTime) Builder.setDeviceTime

def applyExtended (builder : Builder) (header : ExtendedHeader) : Builder :=
  let builder := (builder.setVerbose header.isVerbose).setType (MessageType.ofInfo header.info)
  let builder := builder.setArgumentCount header.argumentCount
  (builder.setAppId (Ident.text header.appId)).setCtxId (Ident.text header.ctxId)

def apply (builder : Builder) (headers : Headers) : Builder :=
  let builder := setIf builder headers.storage applyStorage
  setIf (applyStandard builder headers.standard) headers.extended applyExtended

end Headers

namespace Packet

/-- Bytes that may follow a control payload. -/
def maxPadding : Nat := 32

def readControl (setting : Setting) (builder : Builder) (payload : Bytes) : Except Fault Builder := do
  let (control, used) ← setting.control.decode builder.type builder.order payload
  if payload.length > used + maxPadding then throw (.controlLeftover payload.length used)
  return builder.setPayload control

def readVerbose (builder : Builder) (payload : Bytes) : Except Fault Builder :=
  let count := builder.argumentCount.toNat
  let (arguments, used) := Verbose.decode builder.order payload count
  if used = payload.length then .ok (builder.addArguments arguments)
  else .error (.verboseLeftover payload.length count used)

/-- Reads a payload as the headers say; a control message is one whether or not it is marked verbose. -/
def readPayload (setting : Setting) (builder : Builder) (payload : Bytes) : Except Fault Builder :=
  if builder.type.isControl then readControl setting builder payload
  else if builder.isVerbose then readVerbose builder payload
  else .ok (NonVerbose.decode setting.nonVerbose builder payload)

/-- The line of a packet whose headers have been read, and the builder as far as it was filled in. -/
def finish (setting : Setting) (builder : Builder) (payload : Bytes) : Except Fault Line × Builder :=
  match readPayload setting builder payload with
  | .error fault => (.error fault, builder)
  | .ok filled =>
    match filled.takeLine with
    | .error fault => (.error fault, filled)
    | .ok (line, rest) => (.ok line, rest)

/-- The line of a packet, its framing included, and the builder cleared for the next. Of a packet that
cannot be read, the builder keeps what outlives a line. -/
def decode (setting : Setting) (builder : Builder) (packet : Bytes) (position : Nat) :
    Except Fault Line × Builder :=
  let placed := builder.setPosition position
  match Headers.parse setting.format packet with
  | .error fault => (.error fault, placed.reset)
  | .ok (headers, payload) =>
    let (line, filled) := finish setting (headers.apply placed) payload
    (line, filled.reset)

end Packet

end DiagTrace.Stream
