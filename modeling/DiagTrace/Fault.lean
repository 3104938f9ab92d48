import DiagTrace.Calendar
import DiagTrace.Control.Role
import DiagTrace.Text.Quoted

/-!
Everything that can go wrong while trace data is read or written. A fault names its cause; `kind` sorts
causes by what a caller can do about them and `message` words them.
-/
namespace DiagTrace

inductive HeaderLayer where
  | standard | extended | storage
deriving DecidableEq

/-- Families of arguments whose type information can announce a length that does not exist. -/
inductive ValueFamily where
  | bool | integer | float | array
deriving DecidableEq

inductive Fault where
  | bufferTooSmall (needed available : Nat)
  | truncated (needed remaining : Nat)
  | headerTruncated (layer : HeaderLayer)
  | storageMarkerMissing
  | wrongVersion (version : Nat)
  | lengthBelowMinimum (length minimum : Nat)
  | unknownTypeInfo (info : UInt32)
  | unsupportedLength (family : ValueFamily) (code : Nat)
  | unsupportedElement (info : UInt32)
  | nestingTooDeep
  | arrayTooLong (items remaining : Nat)
  | verboseLeftover (length count used : Nat)
  | notControl (type : MessageType)
  | noControlDecoder (service : UInt32)
  | injectionLength (service : UInt32) (length available : Nat)
  | logInfoStatus (status : Nat)
  | controlLeftover (length used : Nat)
  /-- A fixed-size value of a frame has too few bytes left. -/
  | valueTruncated (what : String) (needed available : Nat)
  | valueLength (what : String) (length : Nat)
  | frameLeftover (id : UInt32) (used length : Nat)
  | argumentNotEncodable
  | fieldTooLong (what : String) (length : Nat)
  | dimensionMismatch (dimensions : List Nat) (items : Nat)
  | payloadNotEncodable
  | descriptionTooLong
  | tooManyEntries
  | serviceNotRegistered (role : Control.Role) (service : UInt32)
  | skippedLine
  | packetTooLong (length : Nat)
  | decodedArguments (id : UInt32)
  | deviceTimeTooLong (span : Duration)
  | tooManyArguments (count : Nat)
  | notRegistrable (service : UInt32) (type : MessageType)
  | emptyTypeName
  | controlPayloadMissing (type : MessageType)
  | duplicateFrame (ecu app ctx : Option String) (id : UInt32)
  | frameMapSyntax
  | unreadableFile
deriving DecidableEq

inductive FaultKind where
  | insufficientBuffer | encodeNotSupported | undefinedControlPayload | usage | invalidData
  | duplicateFrame | frameMapSyntax | unreadableFile
deriving DecidableEq

namespace HeaderLayer

def name : HeaderLayer → String
  | standard => "standard"
  | extended => "extended"
  | storage => "storage"

end HeaderLayer

namespace ValueFamily

def name : ValueFamily → String
  | bool => "Bool"
  | integer => "Integer"
  | float => "Float"
  | array => "Array"

end ValueFamily

namespace Fault

def kind : Fault → FaultKind
  | bufferTooSmall .. => .insufficientBuffer
  | truncated .. | headerTruncated _ | storageMarkerMissing | wrongVersion _ | lengthBelowMinimum ..
  | unknownTypeInfo _ | unsupportedLength .. | unsupportedElement _ | nestingTooDeep | arrayTooLong ..
  | verboseLeftover .. | notControl _ | noControlDecoder _ | injectionLength .. | logInfoStatus _
  | controlLeftover .. | valueTruncated .. | valueLength .. | frameLeftover .. => .invalidData
  | argumentNotEncodable | fieldTooLong .. | dimensionMismatch .. | payloadNotEncodable
  | descriptionTooLong | tooManyEntries | serviceNotRegistered .. | skippedLine | packetTooLong _
  | decodedArguments _ | deviceTimeTooLong _ => .encodeNotSupported
  | tooManyArguments _ | notRegistrable .. | emptyTypeName => .usage
  | controlPayloadMissing _ => .undefinedControlPayload
  | duplicateFrame .. => .duplicateFrame
  | frameMapSyntax => .frameMapSyntax
  | unreadableFile => .unreadableFile

/-- A number in base sixteen behind `0x`, at least `width` digits. -/
def hex (width n : Nat) : String := "0x" ++ Hex.number width n

/-- What went wrong, without the words of its kind. -/
def detail : Fault → String
  | bufferTooSmall needed available => s!"need {needed} bytes, have {available}"
  | truncated needed remaining => s!"need {needed} bytes, only {remaining} remaining"
  | headerTruncated layer => layer.name ++ " header truncated"
  | storageMarkerMissing => "storage header marker not found"
  | wrongVersion version => s!"packet version {version} found, expected 1"
  | lengthBelowMinimum length minimum =>
    s!"packet with length {length} found, expected minimum {minimum}"
  | unknownTypeInfo info => "unknown type info " ++ hex 8 info.toNat
  | unsupportedLength family code => "'" ++ family.name ++ "' unsupported type length " ++ hex 1 code
  | unsupportedElement info => "unsupported array type info " ++ hex 8 info.toNat
  | nestingTooDeep => "struct nesting too deep"
  | arrayTooLong items remaining => s!"array of {items} items exceeds the remaining {remaining} bytes"
  | verboseLeftover length count used =>
    s!"verbose payload of {length} bytes, {count} arguments used {used}"
  | notControl type => type.description ++ " is not a control message type"
  | noControlDecoder service => "no decoder for control service " ++ hex 1 service.toNat
  | injectionLength service length available =>
    "software injection " ++ hex 1 service.toNat
      ++ s!" length {length} does not match payload of {available} bytes"
  | logInfoStatus status => s!"get_log_info response with unrecognized status {status}"
  | controlLeftover length used => s!"control payload of {length} bytes, decoded {used}"
  | valueTruncated what needed available =>
    s!"insufficient payload for {what}: need {needed} bytes, have {available}"
  | valueLength what length => s!"{what} invalid length {length} in PDU"
  | frameLeftover id used length => s!"frame {id} used {used} of {length} payload bytes"
  | argumentNotEncodable => "verbose argument"
  | fieldTooLong what length => s!"{what} too long ({length} bytes)"
  | dimensionMismatch dimensions items =>
    "array dimensions " ++ Text.bracketed (dimensions.map toString) ++ s!" do not match {items} items"
  | payloadNotEncodable => "cannot encode control payload"
  | descriptionTooLong => "description longer than 65534 bytes"
  | tooManyEntries => "too many log info entries"
  | serviceNotRegistered role service =>
    "control " ++ role.name ++ " service " ++ hex 1 service.toNat ++ " is not registered"
  | skippedLine => "skipped lines have no packet"
  | packetTooLong length => s!"packet length {length} exceeds 65535"
  | decodedArguments id => s!"non-verbose message {id} with decoded arguments"
  | deviceTimeTooLong span =>
    "device timestamp " ++ span.exactText ++ " exceeds the 32-bit tick counter"
  | tooManyArguments count => s!"{count} arguments, at most 255 fit a packet"
  | notRegistrable service type =>
    "cannot register control service " ++ hex 1 service.toNat ++ " for message type "
      ++ type.description
  | emptyTypeName => "empty PDU type name"
  | controlPayloadMissing type => type.description
  | duplicateFrame ecu app ctx id =>
    "ecu=" ++ Text.optional ecu ++ " app=" ++ Text.optional app ++ " ctx=" ++ Text.optional ctx
      ++ s!" id={id}"
  | frameMapSyntax => "not a list of frames"
  | unreadableFile => "file cannot be read"

/-- The words that open a message of each kind. -/
def heading : FaultKind → String
  | .insufficientBuffer => "Insufficient buffer: "
  | .encodeNotSupported => "Encoding not supported: "
  | .undefinedControlPayload => "Undefined control payload for "
  | .usage => "Invalid usage: "
  | .invalidData => "Invalid data: "
  | .duplicateFrame => "Duplicate frame in frame map: "
  | .frameMapSyntax => "Failed to parse frame map: "
  | .unreadableFile => "IO error: "

def message (fault : Fault) : String := heading fault.kind ++ fault.detail

end Fault

end DiagTrace
