import DiagTrace.Config
import DiagTrace.Frame.Json
import DiagTrace.Stream.Decoder
import DiagTrace.Text.Utf8

/-! Decoders built from a configuration, whose frame map lies in a file. -/
namespace DiagTrace

/-- Reads a frame map from what a file holds, if it could be read at all. -/
def FrameMap.ofFile (content : Option Bytes) : Except Fault FrameMap :=
  match content.bind Utf8.decode? with
  | some text => FrameMap.ofText text
  | none => .error .unreadableFile

namespace Config

/-- The clock of a configuration, where a clock would show `now`. -/
def clock (config : Config) (now : Timestamp) : Clock :=
  if config.online then .running now else .recorded

/-- A decoder for a configuration; `content` is what the file of the frame map holds. -/
def decoder (config : Config) (now : Timestamp) (content : Option Bytes) :
    Except Fault Stream.Decoder := do
  let frames ← match config.frameMap with
    | some _ => some <$> FrameMap.ofFile content
    | none => pure none
  return Stream.Decoder.standard config.format (config.clock now) frames

end Config

end DiagTrace
