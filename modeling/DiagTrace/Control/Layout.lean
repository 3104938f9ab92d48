import DiagTrace.Bytes.Cursor
import DiagTrace.Control.Payload
import DiagTrace.Text.Latin1
import DiagTrace.Verbose.Decode

/-!
Layouts of control payloads. Every payload starts with the number of its service, and that of a response
goes on with a status. A layout says how what follows is read.

A report of log information, for status 3 to 7, is
`application count (id, context count, (id [level] [trace] [description]) ... [description]) ... interface`
where levels come with status 4, 6 and 7, trace states with 5, 6 and 7, descriptions with 7.
-/
namespace DiagTrace.Control

inductive RequestLayout where
  | setLogLevel | setTraceStatus | getLogInfo | query | enable | setDefaultLogLevel
  | setDefaultTraceStatus | getTraceStatus | injection
deriving DecidableEq

inductive ResponseLayout where
  | status | logLevel | enabled | logInfo | softwareVersion | bufferOverflow | syncTimestamp
  | unregisterContext | connectionInfo | timeZone | injection
deriving DecidableEq

inductive Layout where
  | request (layout : RequestLayout)
  | response (layout : ResponseLayout)
deriving DecidableEq

def Status.isListing (status : UInt8) : Bool := 3 ≤ status && status ≤ 7

def Status.hasLevels (status : UInt8) : Bool := status == 4 || status == 6 || status == 7

def Status.hasTraces (status : UInt8) : Bool := status == 5 || status == 6 || status == 7

def Status.hasDescriptions (status : UInt8) : Bool := status == 7

/-- Whether a response with this status says only that the service failed. -/
def Status.isFailure (status : UInt8) : Bool := status == Status.notSupported || status == Status.error

/-- Whether a report with this status carries nothing but the interface. -/
def Status.isEmptyReport (status : UInt8) : Bool :=
  status == Status.ok || Status.isFailure status || status == Status.noMatch
    || status == Status.overflow

namespace Layout

open Verbose (optionally withoutTerminator)

def readInt8 : Read Int8 := do
  return Int8.ofInt (← Read.signed .little .w8)

def readFlag : Read Bool := do
  return (← Read.byte) != 0

def readTarget : Read Target := do
  let app ← Read.ident
  let ctx ← Read.ident
  return ⟨app, ctx⟩

/-- The data of an injected message; its length is little endian and counts all that follows. -/
def readInjection (service : ServiceId) : Read Bytes := do
  let length ← Read.nat .little 4
  let available := (← get).remaining
  if length != available then throw (.injectionLength service length available)
  Read.take length

/-- A text of 8-bit characters behind a 32-bit length, with or without a closing zero. -/
def readVersion (order : ByteOrder) : Read String := do
  let length ← Read.nat order 4
  return Latin1.decode (withoutTerminator (← Read.take length))

def readDescription (order : ByteOrder) : Read String := do
  let length ← Read.u16 order
  Verbose.readText length

def readContext (order : ByteOrder) (status : UInt8) : Read ContextInfo := do
  let id ← Read.ident
  let level ← optionally (Status.hasLevels status) readInt8
  let trace ← optionally (Status.hasTraces status) readInt8
  let description ← optionally (Status.hasDescriptions status) (readDescription order)
  return ⟨id, level, trace, description⟩

def readApp (order : ByteOrder) (status : UInt8) : Read AppInfo := do
  let id ← Read.ident
  let count ← Read.u16 order
  let contexts ← Read.times (readContext order status) count
  let description ← optionally (Status.hasDescriptions status) (readDescription order)
  return ⟨id, contexts, description⟩

/-- A failed service may leave out the interface that every report ends with. -/
def readLogInfo (order : ByteOrder) (service : ServiceId) : Read Response := do
  let status ← Read.byte
  if Status.isFailure status && !(← get).rest.hasAtLeast 4 then
    return .status service status
  else if Status.isEmptyReport status then
    return .logInfo status [] (← Read.ident)
  else if Status.isListing status then
    let count ← Read.u16 order
    let apps ← Read.times (readApp order status) count
    return .logInfo status apps (← Read.ident)
  else
    throw (.logInfoStatus status.toNat)

def readAnswer (service : ServiceId) (body : UInt8 → Read Response) : Read Response := do
  let status ← Read.byte
  if Status.isFailure status then return .status service status else body status

def readSeconds (order : ByteOrder) : Read UInt64 := do
  let low ← Read.nat order 4
  let high ← Read.nat order 2
  return UInt64.ofNat (high * Bytes.capacity 4 + low)

end Layout

open Layout

/-- What follows the number of the service in a request; no field of it depends on the byte order. -/
def RequestLayout.read (service : ServiceId) : RequestLayout → Read Request
  | .setLogLevel => do return .setLogLevel (← readTarget) (← readInt8) (← Read.ident)
  | .setTraceStatus => do return .setTraceStatus (← readTarget) (← readInt8) (← Read.ident)
  | .getLogInfo => do return .getLogInfo (← Read.byte) (← readTarget) (← Read.ident)
  | .query => return .query service
  | .enable => do return .enable service (← readFlag)
  | .setDefaultLogLevel => do return .setDefaultLogLevel (← readInt8) (← Read.ident)
  | .setDefaultTraceStatus => do return .setDefaultTraceStatus (← readFlag) (← Read.ident)
  | .getTraceStatus => do return .getTraceStatus (← readTarget)
  | .injection => do return .injection service (← readInjection service)

def ResponseLayout.read (order : ByteOrder) (service : ServiceId) : ResponseLayout → Read Response
  | .status => do return .status service (← Read.byte)
  | .logLevel => readAnswer service fun status => do return .logLevel service status (← readInt8)
  | .enabled => readAnswer service fun status => do return .enabled service status (← readFlag)
  | .logInfo => readLogInfo order service
  | .softwareVersion => readAnswer service fun status => do
    return .softwareVersion status (← readVersion order)
  | .bufferOverflow => readAnswer service fun status => do
    return .bufferOverflow status (← Read.u32 order)
  | .syncTimestamp => readAnswer service fun status => do
    let nanoseconds ← Read.u32 order
    return .syncTimestamp status (← readSeconds order) nanoseconds
  | .unregisterContext => readAnswer service fun status => do
    return .unregisterContext status (← readTarget) (← Read.ident)
  | .connectionInfo => readAnswer service fun status => do
    return .connectionInfo status (← Read.byte) (← Read.ident)
  | .timeZone => readAnswer service fun status => do
    return .timeZone status (Int32.ofInt (← Read.signed order .w32)) (← readFlag)
  | .injection => do return .injection service (← Read.byte)

def Layout.read (order : ByteOrder) (service : ServiceId) : Layout → Read Payload
  | .request layout => .request <$> layout.read service
  | .response layout => .response <$> layout.read order service

end DiagTrace.Control
