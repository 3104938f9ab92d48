import DiagTrace.Frame.Map
import DiagTrace.Json.Value

/-! Frame maps as JSON texts: an array of frames, each with its slots. -/
namespace DiagTrace

namespace Pdu

def fieldNames : List String := ["type", "length", "description"]

def ofJson? (json : Json) : Option Pdu := do
  let record ← Json.Record.ofJson? fieldNames json
  let type ← record.required? "type" Json.asText?
  let length ← record.orDefault? "length" 0 (Json.asNat? (Bytes.capacity 2))
  let description ← record.orDefault? "description" none (Json.asOptional? Json.asText?)
  return ⟨type, UInt16.ofNat length, description⟩

end Pdu

namespace Frame

def fieldNames : List String := ["id", "ecu_id", "app_id", "ctx_id", "message_type", "pdus"]

def pdusOfJson? : Json → Option (List Pdu)
  | .array items => items.mapM Pdu.ofJson?
  | _ => none

def ofJson? (json : Json) : Option Frame := do
  let record ← Json.Record.ofJson? fieldNames json
  let id ← record.required? "id" (Json.asNat? (Bytes.capacity 4))
  let ecuId ← record.orDefault? "ecu_id" none (Json.asOptional? Json.asText?)
  let appId ← record.orDefault? "app_id" none (Json.asOptional? Json.asText?)
  let ctxId ← record.orDefault? "ctx_id" none (Json.asOptional? Json.asText?)
  let messageType ← record.orDefault? "message_type" defaultType fun json =>
    json.asWord?.bind MessageType.ofName?
  let pdus ← record.orDefault? "pdus" [] pdusOfJson?
  return ⟨UInt32.ofNat id, ecuId, appId, ctxId, messageType, pdus⟩

def listOfJson? : Json → Option (List Frame)
  | .array items => items.mapM ofJson?
  | _ => none

end Frame

namespace FrameMap

/-- Reads the text of a frame map; a text of another shape is refused as a whole. -/
def ofText (text : String) : Except Fault FrameMap :=
  match (Json.parse? text).bind Frame.listOfJson? with
  | some frames => ofList frames
  | none => .error .frameMapSyntax

end FrameMap

end DiagTrace
