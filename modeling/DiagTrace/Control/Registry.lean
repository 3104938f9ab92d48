import DiagTrace.Control.Encode

/-!
The services that a reader of control messages knows. Each number has at most one entry in each role;
registering replaces it. Numbers of the injection range without an entry are read and written as
injected messages.
-/
namespace DiagTrace.Control

/-- How the payloads of a service are read, and the role in which they can be written. -/
structure Service where
  layout : Layout
  role : Role
deriving DecidableEq

structure ServiceKey where
  id : ServiceId
  role : Role
deriving DecidableEq

structure Registry where
  entries : List (ServiceKey × Service)

namespace Registry

def queries : List ServiceId :=
  [.getDefaultLogLevel, .storeConfig, .resetFactoryDefault, .getLocalTime, .getSoftwareVersion,
   .messageBufferOverflow, .getDefaultTraceStatus, .getVerboseMode, .getMessageFiltering,
   .getUseEcuId, .getUseSessionId, .getUseTimestamp, .getUseExtendedHeader, .bufferOverflow,
   .syncTimestamp]

def switches : List ServiceId :=
  [.setVerboseMode, .setMessageFiltering, .setTimingPackets, .useEcuId, .useSessionId,
   .useTimestamp, .useExtendedHeader]

def acknowledgements : List ServiceId :=
  [.setLogLevel, .setTraceStatus, .storeConfig, .resetFactoryDefault, .setVerboseMode,
   .setMessageFiltering, .setTimingPackets, .getLocalTime, .useEcuId, .useSessionId, .useTimestamp,
   .useExtendedHeader, .setDefaultLogLevel, .setDefaultTraceStatus, .marker]

def switchStates : List ServiceId :=
  [.messageBufferOverflow, .getDefaultTraceStatus, .getVerboseMode, .getMessageFiltering,
   .getUseEcuId, .getUseSessionId, .getUseTimestamp, .getUseExtendedHeader, .getTraceStatus]

def standardRequests : List (ServiceId × RequestLayout) :=
  [(.setLogLevel, .setLogLevel), (.setTraceStatus, .setTraceStatus), (.getLogInfo, .getLogInfo),
   (.setDefaultLogLevel, .setDefaultLogLevel), (.setDefaultTraceStatus, .setDefaultTraceStatus),
   (.getTraceStatus, .getTraceStatus)]
    ++ queries.map (·, .query) ++ switches.map (·, .enable)

def standardResponses : List (ServiceId × ResponseLayout) :=
  acknowledgements.map (·, .status) ++ switchStates.map (·, .enabled)
    ++ [(.getLogInfo, .logInfo), (.getDefaultLogLevel, .logLevel),
        (.getSoftwareVersion, .softwareVersion), (.bufferOverflow, .bufferOverflow),
        (.syncTimestamp, .syncTimestamp), (.unregisterContext, .unregisterContext),
        (.connectionInfo, .connectionInfo), (.timeZone, .timeZone)]

def standard : Registry :=
  ⟨(standardRequests.map fun (id, layout) => (⟨id, .request⟩, ⟨.request layout, .request⟩))
    ++ standardResponses.map fun (id, layout) => (⟨id, .response⟩, ⟨.response layout, .response⟩)⟩

def find? (registry : Registry) (key : ServiceKey) : Option Service :=
  registry.entries.lookup key

def isRegistered (registry : Registry) (key : ServiceKey) : Bool := (registry.find? key).isSome

def erase (registry : Registry) (key : ServiceKey) : Registry :=
  ⟨registry.entries.filter fun entry => entry.1 != key⟩

def insert (registry : Registry) (key : ServiceKey) (service : Service) : Registry :=
  ⟨(key, service) :: (registry.erase key).entries⟩

/-- Puts a service in for one message type; only requests and responses have services. -/
def register (registry : Registry) (id : ServiceId) (type : MessageType) (service : Service) :
    Except Fault Registry :=
  match Role.ofType? type with
  | some role => .ok (registry.insert ⟨id, role⟩ service)
  | none => .error (.notRegistrable id type)

def unregister (registry : Registry) (key : ServiceKey) : Bool × Registry :=
  (registry.isRegistered key, registry.erase key)

/-- How injected messages of a role are read and written. -/
def injection : Role → Service
  | .request => ⟨.request .injection, .request⟩
  | .response => ⟨.response .injection, .response⟩

def lookup (registry : Registry) (key : ServiceKey) : Option Service :=
  match registry.find? key with
  | some service => some service
  | none => if key.id < .firstInjection then none else some (injection key.role)

/-- Reads the number of the service, then what its layout says. -/
def readPayload (registry : Registry) (order : ByteOrder) (role : Role) : Read Payload := do
  let id ← Read.u32 order
  match registry.lookup ⟨id, role⟩ with
  | some service => service.layout.read order id
  | none => throw (.noControlDecoder id)

/-- The payload of a control message and the number of bytes that it uses. -/
def decode (registry : Registry) (type : MessageType) (order : ByteOrder) (data : Bytes) :
    Except Fault (Payload × Nat) := do
  if type == .control .time then return (.timeMarker, 0)
  match Role.ofType? type with
  | none => throw (.notControl type)
  | some role =>
    let (payload, cursor) ← registry.readPayload order role (Cursor.ofBytes data)
    return (payload, cursor.position)

/-- Writes a payload through the entry of its service; a bare status is a response in every entry. -/
def encodeAs (registry : Registry) (order : ByteOrder) (key : ServiceKey) (payload : Payload) :
    Except Fault Bytes :=
  match registry.lookup key, payload with
  | none, _ => .error (.serviceNotRegistered key.role key.id)
  | some _, .response (.status service status) => (Response.status service status).encode order
  | some service, payload => service.role.encode order payload

/-- The bytes of a control message; a time marker has none. -/
def encode (registry : Registry) (order : ByteOrder) (payload : Payload) : Except Fault Bytes :=
  match payload with
  | .timeMarker => .ok []
  | .request body => registry.encodeAs order ⟨body.service, .request⟩ payload
  | .response body => registry.encodeAs order ⟨body.service, .response⟩ payload

end Registry

end DiagTrace.Control
