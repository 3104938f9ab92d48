import DiagTrace.Control.Layout
import DiagTrace.Verbose.Encode

/-!
Writing control payloads. What is written follows from the payload alone; a report of log information is
refused where its status, a count or a description has no form on the wire.
-/
namespace DiagTrace.Control

def entryCount (order : ByteOrder) (count : Nat) : Except Fault Bytes :=
  if count < 65536 then .ok (order.encode 2 count) else .error .tooManyEntries

/-- A description with its closing zero behind its length; an absent one is written as an empty one. -/
def encodeDescription (order : ByteOrder) (description : Option String) : Except Fault Bytes :=
  let data := Verbose.terminated (description.getD "")
  if data.length < 65536 then .ok (order.encode 2 data.length ++ data)
  else .error .descriptionTooLong

/-- The bytes of a field that is there only for some states of a report. -/
def encodeIf (present : Bool) (data : Except Fault Bytes) : Except Fault Bytes :=
  if present then data else .ok []

def encodeInt8 (value : Int8) : Bytes := ByteOrder.little.encode 1 (TwosComplement.encode 1 value.toInt)

/-- A level or state that a report has to show; an absent one is written as the default. -/
def encodeOptionalInt8 (value : Option Int8) : Bytes := encodeInt8 (value.getD (-1))

def encodeFlag (value : Bool) : Bytes := [if value then 1 else 0]

def Target.encode (target : Target) : Bytes := Ident.bytes target.app ++ Ident.bytes target.ctx

def ContextInfo.encode (order : ByteOrder) (status : UInt8) (context : ContextInfo) :
    Except Fault Bytes := do
  let level := if Status.hasLevels status then encodeOptionalInt8 context.logLevel else []
  let trace := if Status.hasTraces status then encodeOptionalInt8 context.traceStatus else []
  let description ←
    encodeIf (Status.hasDescriptions status) (encodeDescription order context.description)
  return Ident.bytes context.id ++ level ++ trace ++ description

def AppInfo.encode (order : ByteOrder) (status : UInt8) (app : AppInfo) : Except Fault Bytes := do
  let count ← entryCount order app.contexts.length
  let contexts ← app.contexts.mapM (ContextInfo.encode order status)
  let description ←
    encodeIf (Status.hasDescriptions status) (encodeDescription order app.description)
  return Ident.bytes app.id ++ count ++ contexts.flatten ++ description

/-- The applications of a report; only some states of a report have any. -/
def encodeApps (order : ByteOrder) (status : UInt8) (apps : List AppInfo) : Except Fault Bytes := do
  if Status.isListing status then
    let count ← entryCount order apps.length
    let entries ← apps.mapM (AppInfo.encode order status)
    return count ++ entries.flatten
  else if Status.isEmptyReport status then return []
  else throw .payloadNotEncodable

def Request.encodeBody : Request → Bytes
  | .setLogLevel target level interface => target.encode ++ encodeInt8 level ++ Ident.bytes interface
  | .setTraceStatus target status interface =>
    target.encode ++ encodeInt8 status ++ Ident.bytes interface
  | .getLogInfo options target interface => options :: target.encode ++ Ident.bytes interface
  | .setDefaultLogLevel level interface => encodeInt8 level ++ Ident.bytes interface
  | .setDefaultTraceStatus enabled interface => encodeFlag enabled ++ Ident.bytes interface
  | .getTraceStatus target => target.encode
  | .enable _ enabled => encodeFlag enabled
  | .query _ => []
  | .injection _ data => ByteOrder.little.encode 4 data.length ++ data
  | .custom _ data => data

def Response.encodeBody (order : ByteOrder) : Response → Except Fault Bytes
  | .status .. | .injection .. => .ok []
  | .logLevel _ _ level => .ok (encodeInt8 level)
  | .enabled _ _ value => .ok (encodeFlag value)
  | .logInfo code apps interface => do
    return (← encodeApps order code apps) ++ Ident.bytes interface
  | .softwareVersion _ version =>
    let data := Latin1.encode version ++ [0]
    .ok (order.encode 4 data.length ++ data)
  | .bufferOverflow _ counter => .ok (order.encode 4 counter.toNat)
  | .syncTimestamp _ seconds nanoseconds =>
    .ok (order.encode 4 nanoseconds.toNat ++ order.encode 4 seconds.toNat
      ++ order.encode 2 (seconds.toNat / Bytes.capacity 4))
  | .unregisterContext _ target interface => .ok (target.encode ++ Ident.bytes interface)
  | .connectionInfo _ state interface => .ok (state :: Ident.bytes interface)
  | .timeZone _ offset summer =>
    .ok (order.encode 4 (TwosComplement.encode 4 offset.toInt) ++ encodeFlag summer)
  | .custom _ _ data => .ok data

def Request.encode (order : ByteOrder) (request : Request) : Bytes :=
  order.encode 4 request.service.toNat ++ request.encodeBody

def Response.encode (order : ByteOrder) (response : Response) : Except Fault Bytes := do
  let body ← response.encodeBody order
  return order.encode 4 response.service.toNat ++ response.statusCode :: body

/-- Writes a payload of one role; another payload has no place there. -/
def Role.encode (order : ByteOrder) : Role → Payload → Except Fault Bytes
  | .request, .request body => .ok (body.encode order)
  | .response, .response body => body.encode order
  | _, _ => .error .payloadNotEncodable

end DiagTrace.Control
