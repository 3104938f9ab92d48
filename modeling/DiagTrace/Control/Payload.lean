import DiagTrace.Bytes.Order
import DiagTrace.Control.Role
import DiagTrace.Control.ServiceId

/-!
Payloads of control messages: requests to a service, its responses, and the marker of a time
synchronisation. Services with a layout of their own have a constructor of their own; the others say
which service they belong to.
-/
namespace DiagTrace.Control

namespace Status

def ok : UInt8 := 0
def notSupported : UInt8 := 1
def error : UInt8 := 2

/-- An injected message is still being worked on. -/
def pending : UInt8 := 3

/-- No context matched a request for log information. -/
def noMatch : UInt8 := 8

/-- Log information did not fit into a message. -/
def overflow : UInt8 := 9

end Status

/-- The application and the context that a message is about; empty identifiers stand for all. -/
structure Target where
  app : String
  ctx : String
deriving DecidableEq, Inhabited

/-- A context in a report of log information; fields that the report leaves out are absent. -/
structure ContextInfo where
  id : String
  logLevel : Option Int8
  traceStatus : Option Int8
  description : Option String
deriving DecidableEq, Inhabited

structure AppInfo where
  id : String
  contexts : List ContextInfo
  description : Option String
deriving DecidableEq, Inhabited

inductive Request where
  | setLogLevel (target : Target) (level : Int8) (interface : String)
  | setTraceStatus (target : Target) (status : Int8) (interface : String)
  | getLogInfo (options : UInt8) (target : Target) (interface : String)
  | setDefaultLogLevel (level : Int8) (interface : String)
  | setDefaultTraceStatus (enabled : Bool) (interface : String)
  | getTraceStatus (target : Target)
  | enable (service : ServiceId) (enabled : Bool)
  | query (service : ServiceId)
  | injection (service : ServiceId) (data : Bytes)
  /-- Data behind a service number, not interpreted. -/
  | custom (service : ServiceId) (data : Bytes)
deriving DecidableEq

inductive Response where
  /-- A status and nothing else, as also a failed service answers. -/
  | status (service : ServiceId) (status : UInt8)
  | logLevel (service : ServiceId) (status : UInt8) (level : Int8)
  | enabled (service : ServiceId) (status : UInt8) (enabled : Bool)
  | logInfo (status : UInt8) (apps : List AppInfo) (interface : String)
  | softwareVersion (status : UInt8) (version : String)
  | bufferOverflow (status : UInt8) (counter : UInt32)
  | syncTimestamp (status : UInt8) (seconds : UInt64) (nanoseconds : UInt32)
  | unregisterContext (status : UInt8) (target : Target) (interface : String)
  | connectionInfo (status : UInt8) (state : UInt8) (interface : String)
  /-- Offset from universal time in seconds, summer time included. -/
  | timeZone (status : UInt8) (offset : Int32) (summer : Bool)
  | injection (service : ServiceId) (status : UInt8)
  /-- Data behind a status, not interpreted. -/
  | custom (service : ServiceId) (status : UInt8) (data : Bytes)
deriving DecidableEq

inductive Payload where
  | request (body : Request)
  | response (body : Response)
  | timeMarker
deriving DecidableEq

namespace Request

def service : Request → ServiceId
  | setLogLevel .. => .setLogLevel
  | setTraceStatus .. => .setTraceStatus
  | getLogInfo .. => .getLogInfo
  | setDefaultLogLevel .. => .setDefaultLogLevel
  | setDefaultTraceStatus .. => .setDefaultTraceStatus
  | getTraceStatus _ => .getTraceStatus
  | enable service _ | query service | injection service _ | custom service _ => service

end Request

namespace Response

def service : Response → ServiceId
  | status service _ | logLevel service .. | enabled service .. | injection service _
  | custom service .. => service
  | logInfo .. => .getLogInfo
  | softwareVersion .. => .getSoftwareVersion
  | bufferOverflow .. => .bufferOverflow
  | syncTimestamp .. => .syncTimestamp
  | unregisterContext .. => .unregisterContext
  | connectionInfo .. => .connectionInfo
  | timeZone .. => .timeZone

def statusCode : Response → UInt8
  | status _ code | logLevel _ code _ | enabled _ code _ | logInfo code _ _ | softwareVersion code _
  | bufferOverflow code _ | syncTimestamp code _ _ | unregisterContext code _ _
  | connectionInfo code _ _ | timeZone code _ _ | injection _ code | custom _ code _ => code

end Response

namespace Payload

/-- The message type of a line that carries the payload. -/
def type : Payload → MessageType
  | request _ => .control .request
  | response _ => .control .response
  | timeMarker => .control .time

def service? : Payload → Option ServiceId
  | request body => some body.service
  | response body => some body.service
  | timeMarker => none

end Payload

end DiagTrace.Control
