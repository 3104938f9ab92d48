import DiagTrace.CaptureFormat

/-! What a decoder is built from, as a record that can be kept in a JSON text. -/
namespace DiagTrace

structure Config where
  format : CaptureFormat
  /-- Whether lines get the time of a clock in place of the recorded one. -/
  online : Bool
  frameMap : Option String
deriving DecidableEq, Inhabited

namespace Config

/-- A capture file, read with its own times and without frames. -/
def standard : Config := ⟨.file, false, none⟩

def fieldNames : List String := ["format", "online", "frame_map"]

def ofJson? (json : Json) : Option Config := do
  let record ← Json.Record.ofJson? fieldNames json
  let format ← record.orDefault? "format" standard.format CaptureFormat.ofJson?
  let online ← record.orDefault? "online" standard.online Json.asBool?
  let frameMap ← record.orDefault? "frame_map" standard.frameMap (Json.asOptional? Json.asText?)
  return ⟨format, online, frameMap⟩

def ofText? (text : String) : Option Config := (Json.parse? text).bind ofJson?

end Config

end DiagTrace
