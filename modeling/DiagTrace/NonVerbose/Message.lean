import DiagTrace.Builder
import DiagTrace.NonVerbose.Codec

/-!
Non-verbose messages: a number and what the frame for it describes. Where there is no such frame, or the
payload does not fit it, the payload is kept as it is.
-/
namespace DiagTrace.NonVerbose

/-- A value where the line already has one of its own. -/
def known (builder : Builder) (feature : Feature) (value : String) : Option String :=
  if builder.features.has feature then some value else none

/-- The frame for a message number, searched with the identifiers that the line has. -/
def findFrame? (codec : Codec) (builder : Builder) (id : UInt32) : Option Frame :=
  codec.frames.bind fun frames =>
    frames.find? id (known builder .appId builder.appId) (known builder .ctxId builder.ctxId)
      (known builder .ecuId builder.ecuId)

def fillIn (builder : Builder) (feature : Feature) (value : Option String)
    (set : Builder → String → Builder) : Builder :=
  match value with
  | some value => if builder.features.has feature then builder else set builder (Ident.normal value)
  | none => builder

/-- Identifiers and type from a frame, where the packet had none. -/
def applyFrame (builder : Builder) (frame : Frame) : Builder :=
  let builder := fillIn builder .appId frame.appId Builder.setAppId
  let builder := fillIn builder .ctxId frame.ctxId Builder.setCtxId
  let builder := fillIn builder .ecuId frame.ecuId Builder.setEcuId
  if builder.features.has .messageType then builder else builder.setType frame.messageType

/-- Arguments and frame for the part of a payload behind its number, if there is a frame that fits. -/
def decodeBody? (codec : Codec) (builder : Builder) (id : UInt32) (body : Bytes) :
    Option (Frame × List Argument) := do
  let frame ← findFrame? codec builder id
  match codec.decodeFrame builder.order frame body with
  | .ok arguments => some (frame, arguments)
  | .error _ => none

/-- Reads a payload into the line that is being filled in; all of it is used. A payload without room for
a number has number 0 and nothing behind it. -/
def decode (codec : Codec) (builder : Builder) (data : Bytes) : Builder :=
  if data.hasAtLeast 4 then
    let id := UInt32.ofNat (builder.order.decode (data.take 4))
    let body := data.drop 4
    let numbered := builder.setMessageId id
    match decodeBody? codec builder id body with
    | some (frame, arguments) => (applyFrame numbered frame).addArguments arguments
    | none => numbered.addArgument (.payload body)
  else (builder.setMessageId 0).addArgument (.payload [])

end DiagTrace.NonVerbose
