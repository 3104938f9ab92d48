import DiagTrace.Proofs.Control.Fits
import DiagTrace.Proofs.Feature
import DiagTrace.Stream.Encoder

/-! The lines that have a place in a stream: those whose packets say all that the features promise. -/
namespace DiagTrace.Stream

/-- What a field with a feature must be like; without its feature it does not count. -/
structure HeaderFits (format : CaptureFormat) (header : LineHeader) : Prop where
  proper : Features.Proper header.features
  ecuId : header.features.has .ecuId = true → Ident.Plain header.ecuId
  appId : header.features.has .appId = true → Ident.Plain header.appId
  ctxId : header.features.has .ctxId = true → Ident.Plain header.ctxId
  deviceTime : header.features.has .deviceTimestamp = true →
    ∃ ticks < Bytes.capacity 4, header.deviceTime.nanoseconds = ticks * 100000
  stored : header.features.has .logTimestamp = decide (format = .file)
  /-- Whole microseconds; a leap second has up to two seconds of them. -/
  time : header.features.has .logTimestamp = true →
    0 ≤ header.time.seconds ∧ header.time.seconds < Bytes.capacity 4 ∧
    header.time.nanoseconds % 1000 = 0 ∧ header.time.nanoseconds < 2000000000

def Ordinary (type : MessageType) : Prop := type ≠ .unknown ∧ type.isControl = false

def Extended (header : LineHeader) (present : Bool) : Prop :=
  header.features.has .appId = present ∧ header.features.has .ctxId = present ∧
  header.features.has .messageType = present

/-- Packets are counted in 16 bits from their standard header on. -/
def Short (line : Line) : Prop :=
  ∀ body, Body.ofLine .standard line = .ok body →
    Headers.packetLength (Headers.typeOf line.header (Headers.needsExtended line body)) body ≤ 65535

inductive LineFits (format : CaptureFormat) : Line → Prop where
  | verbose {header : LineHeader} {arguments : List Argument} (fits : HeaderFits format header)
      (marked : header.isVerbose = true) (extended : Extended header true) (type : Ordinary header.type)
      (few : arguments.length ≤ 255)
      (each : ∀ argument ∈ arguments, Verbose.ArgumentFits Verbose.maxDepth argument)
      (short : Short (.normal header none arguments)) : LineFits format (.normal header none arguments)
  | numbered {header : LineHeader} {id : UInt32} {data : Bytes} (fits : HeaderFits format header)
      (unmarked : header.isVerbose = false)
      (extended : (Extended header true ∧ Ordinary header.type) ∨ Extended header false)
      (short : Short (.normal header (some id) [.payload data])) :
      LineFits format (.normal header (some id) [.payload data])
  | control {header : LineHeader} {payload : Control.Payload} (fits : HeaderFits format header)
      (unmarked : header.isVerbose = false) (extended : Extended header true)
      (type : header.type = payload.type) (payload_fits : Control.PayloadFits payload)
      (short : Short (.control header payload)) : LineFits format (.control header payload)

end DiagTrace.Stream
