import DiagTrace.Fault
import DiagTrace.Line.Basic

/-!
The fields of the line that is being read. They are filled one by one while headers and payload of a packet
are walked through, and then make a line. Three lifetimes meet here: most fields belong to one line; the
byte order and the last capture time go on to the next; the count of skipped bytes, with what was known at
its first byte, goes on until it is reported.
-/
namespace DiagTrace

/-- Where the times of capture come from. -/
inductive Clock where
  | recorded
  | running (now : Timestamp)
deriving DecidableEq

namespace Clock

def isRunning : Clock → Bool
  | recorded => false
  | running _ => true

def read (clock : Clock) (recordedTime : Timestamp) : Timestamp :=
  match clock with
  | recorded => recordedTime
  | running now => now

end Clock

/-- Bytes skipped and not yet reported, with what was known at the first of them. -/
structure SkipSpan where
  bytes : Nat
  reason : Option String
  time : Timestamp
  timeKnown : Bool
  deviceTime : Duration
  position : Nat
deriving DecidableEq

structure Builder where
  clock : Clock
  features : Features
  ecuId : String
  appId : String
  ctxId : String
  /-- The device of the line before this one. -/
  lastEcuId : String
  count : Option UInt8
  deviceTime : Duration
  session : UInt32
  time : Timestamp
  type : MessageType
  position : Nat
  messageId : Option UInt32
  argumentCount : UInt8
  arguments : List Argument
  payload : Option Control.Payload
  nextNumber : Nat
  skip : SkipSpan

namespace Builder

/-- The features that a line starts with: the byte order of the line before, and with a clock a time. -/
def initialFeatures (clock : Clock) (bigEndian : Bool) : Features :=
  (Features.none.addIf .bigEndian bigEndian).addIf .logTimestamp clock.isRunning

def start (clock : Clock) : Builder :=
  let time := clock.read .epoch
  { clock, features := initialFeatures clock false, ecuId := "", appId := "", ctxId := ""
    lastEcuId := "", count := none, deviceTime := .zero, session := 0, time
    type := .unknown, position := 0, messageId := none, argumentCount := 0, arguments := []
    payload := none, nextNumber := 0, skip := ⟨0, none, time, false, .zero, 0⟩ }

def isBigEndian (builder : Builder) : Bool := builder.features.has .bigEndian

def isVerbose (builder : Builder) : Bool := builder.features.has .verbose

def order (builder : Builder) : ByteOrder := ByteOrder.ofFlag builder.isBigEndian

/-- Clears what belongs to one line. -/
def reset (builder : Builder) : Builder :=
  { builder with
    features := initialFeatures builder.clock builder.isBigEndian
    ecuId := "", appId := "", ctxId := "", lastEcuId := builder.ecuId, count := none
    deviceTime := .zero, session := 0, type := .unknown, position := 0, messageId := none
    argumentCount := 0, arguments := [], payload := none }

/-- The device named by a storage header counts only where the packet names none. -/
def setStorageEcuId (builder : Builder) (id : String) : Builder :=
  if builder.features.has .ecuId then builder else { builder with ecuId := id }

def setEcuId (builder : Builder) (id : String) : Builder :=
  { builder with ecuId := id, features := builder.features.add .ecuId }

def setAppId (builder : Builder) (id : String) : Builder :=
  { builder with appId := id, features := builder.features.add .appId }

def setCtxId (builder : Builder) (id : String) : Builder :=
  { builder with ctxId := id, features := builder.features.add .ctxId }

/-- A counter is in every packet and so has no feature. -/
def setCount (builder : Builder) (count : UInt8) : Builder := { builder with count := some count }

def setDeviceTime (builder : Builder) (deviceTime : Duration) : Builder :=
  { builder with deviceTime, features := builder.features.add .deviceTimestamp }

def setType (builder : Builder) (type : MessageType) : Builder :=
  { builder with type, features := builder.features.add .messageType }

def setVerbose (builder : Builder) (verbose : Bool) : Builder :=
  { builder with features := builder.features.addIf .verbose verbose }

def setBigEndian (builder : Builder) (bigEndian : Bool) : Builder :=
  { builder with features := builder.features.addIf .bigEndian bigEndian }

def setSession (builder : Builder) (session : UInt32) : Builder :=
  { builder with session, features := builder.features.add .sessionId }

def setTime (builder : Builder) (time : Timestamp) : Builder :=
  { builder with time, features := builder.features.add .logTimestamp }

def setTimeParts (builder : Builder) (seconds microseconds : UInt32) : Builder :=
  builder.setTime (Timestamp.ofParts seconds.toNat microseconds.toNat)

def setPosition (builder : Builder) (position : Nat) : Builder := { builder with position }

def setMessageId (builder : Builder) (id : UInt32) : Builder := { builder with messageId := some id }

def setArgumentCount (builder : Builder) (count : UInt8) : Builder :=
  { builder with argumentCount := count }

def addArgument (builder : Builder) (argument : Argument) : Builder :=
  { builder with arguments := builder.arguments ++ [argument] }

def addArguments (builder : Builder) (arguments : List Argument) : Builder :=
  { builder with arguments := builder.arguments ++ arguments }

def setPayload (builder : Builder) (payload : Control.Payload) : Builder :=
  { builder with payload := some payload }

def openSkip (builder : Builder) (reason : String) : SkipSpan :=
  { bytes := 0, reason := some reason, time := builder.clock.read builder.time
    timeKnown := builder.clock.isRunning || builder.features.has .logTimestamp
    deviceTime := builder.deviceTime, position := builder.position }

/-- Counts skipped bytes of a stream, which are never too many for a count. The first of them open a new span. -/
def countSkipped (builder : Builder) (bytes : Nat) (reason : String) : Builder :=
  if bytes = 0 then builder
  else
    let span := if builder.skip.bytes = 0 then builder.openSkip reason else builder.skip
    { builder with skip := { span with bytes := span.bytes + bytes } }

/-- Counts skipped bytes in 64 bits: a builder of its own can be told of any number of them, and a sum that is too large
starts over at 0. -/
def addSkipped (builder : Builder) (bytes : UInt64) (reason : String) : Builder :=
  if bytes = 0 then builder
  else
    let counted := builder.countSkipped bytes.toNat reason
    { counted with skip := { counted.skip with bytes := counted.skip.bytes % Bytes.capacity 8 } }

theorem countSkipped_bytes (builder : Builder) (bytes : Nat) (reason : String) :
    (builder.countSkipped bytes reason).skip.bytes = builder.skip.bytes + bytes := by
  by_cases nothing : bytes = 0
  · rw [countSkipped, if_pos nothing, nothing, Nat.add_zero]
  · by_cases reported : builder.skip.bytes = 0
    · simp only [countSkipped, if_neg nothing, reported, ↓reduceIte, openSkip]
    · simp only [countSkipped, if_neg nothing, if_neg reported]

/-- A sum that fits the 64 bits is counted exactly. -/
theorem addSkipped_of_fits {builder : Builder} {bytes : UInt64}
    (fits : builder.skip.bytes + bytes.toNat < Bytes.capacity 8) (reason : String) :
    builder.addSkipped bytes reason = builder.countSkipped bytes.toNat reason := by
  by_cases nothing : bytes = 0
  · rw [addSkipped, if_pos nothing, nothing]
    rfl
  · simp only [addSkipped, if_neg nothing, countSkipped_bytes, Nat.mod_eq_of_lt fits]
    rw [← countSkipped_bytes]

def takeHeader (builder : Builder) : LineHeader × Builder :=
  let features :=
    if builder.clock.isRunning then builder.features.add .logTimestamp else builder.features
  ({ features, ecuId := builder.ecuId, appId := builder.appId, ctxId := builder.ctxId
     count := builder.count, deviceTime := builder.deviceTime, session := builder.session
     time := builder.clock.read builder.time, type := builder.type, number := builder.nextNumber
     position := builder.position },
    { builder with features, nextNumber := builder.nextNumber + 1 })

/-- The line that has been filled in. A control message needs its payload. -/
def takeLine (builder : Builder) : Except Fault (Line × Builder) :=
  if builder.type.isControl then
    match builder.payload with
    | some payload =>
      let (header, rest) := builder.takeHeader
      .ok (.control header payload, { rest with payload := none })
    | none => .error (.controlPayloadMissing builder.type)
  else
    let (header, rest) := builder.takeHeader
    .ok (.normal header builder.messageId builder.arguments, { rest with arguments := [] })

def skipId : String := "SKIP"

def takeSkipped (builder : Builder) : Line × Builder :=
  let features := (Features.ofList [.ecuId, .appId, .ctxId, .verbose, .messageType]).addIf
    .logTimestamp builder.skip.timeKnown
  let header : LineHeader :=
    { features, ecuId := builder.lastEcuId, appId := skipId, ctxId := skipId, count := none
      deviceTime := builder.skip.deviceTime, session := 0, time := builder.skip.time
      type := .log .warn, number := builder.nextNumber, position := builder.skip.position }
  (.skipped header builder.skip.bytes builder.skip.reason,
    { builder with
      nextNumber := builder.nextNumber + 1
      skip := { builder.skip with bytes := 0, reason := none } })

end Builder

end DiagTrace
