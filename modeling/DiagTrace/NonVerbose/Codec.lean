import DiagTrace.Frame.Map
import DiagTrace.NonVerbose.WireType
import DiagTrace.Text.Quoted

/-!
What a reader of non-verbose messages knows: the wire types by name, and the frames that tell which of them
a message is made of. A slot whose type has no entry keeps its bytes.
-/
namespace DiagTrace.NonVerbose

structure Codec where
  types : List (String × WireType)
  frames : Option FrameMap

namespace Codec

/-- The integers of the standard, of up to 64 bits. -/
def standardIntegers : List (String × WireType) :=
  [Width.w8, .w16, .w32, .w64].flatMap fun width =>
    [IntegerDisplay.signed, .unsigned, .hex, .binary].map fun display =>
      (WireType.integerName display width, .integer display width)

def standardTypes : List (String × WireType) :=
  ("S_BOOL", .bool) :: standardIntegers
    ++ [("S_FLOA32", .float32), ("S_FLOA64", .float64), ("S_RAW", .raw), ("S_RAWD", .raw),
        ("S_STRG_ASCII", .string .eightBit), ("S_STRG_UTF8", .string .utf8),
        ("S_UTF8", .string .utf8)]

def standard : Codec := ⟨standardTypes, none⟩

def find? (codec : Codec) (name : String) : Option WireType := codec.types.lookup name

def isRegistered (codec : Codec) (name : String) : Bool := (codec.find? name).isSome

def erase (codec : Codec) (name : String) : Codec :=
  { codec with types := codec.types.filter fun entry => entry.1 != name }

def insert (codec : Codec) (name : String) (type : WireType) : Codec :=
  { codec with types := (name, type) :: (codec.erase name).types }

/-- Puts a wire type in under a name, in place of the one that was there. -/
def register (codec : Codec) (name : String) (type : WireType) : Except Fault Codec :=
  if name.isEmpty then .error .emptyTypeName else .ok (codec.insert name type)

def unregister (codec : Codec) (name : String) : Except Fault (Bool × Codec) :=
  if name.isEmpty then .error .emptyTypeName
  else .ok (codec.isRegistered name, codec.erase name)

def withFrames (codec : Codec) (frames : Option FrameMap) : Codec := { codec with frames }

def summary (codec : Codec) : String :=
  let names := (codec.types.map Prod.fst).mergeSort
  "NonVerboseCodec \x7b types: " ++ Text.bracketed (names.map Text.quoted)
    ++ s!", frame_map: {codec.frames.isSome} \x7d"

/-- The argument of one slot; a fixed text takes no bytes. -/
def readPdu (codec : Codec) (order : ByteOrder) (pdu : Pdu) : Read Argument :=
  match pdu.description with
  | some description => pure (.string description .eightBit)
  | none => ((codec.find? pdu.type).getD .unknown).read order pdu.length

/-- The arguments of all slots of a frame, which use up the payload. -/
def readFrame (codec : Codec) (order : ByteOrder) (frame : Frame) : Read (List Argument) := do
  let arguments ← Read.each (codec.readPdu order) frame.pdus
  let cursor ← get
  if cursor.rest.isEmpty then return arguments
  else throw (.frameLeftover frame.id cursor.position (cursor.position + cursor.remaining))

def decodePdu (codec : Codec) (order : ByteOrder) (pdu : Pdu) (data : Bytes) :
    Except Fault (Argument × Nat) := do
  let (argument, cursor) ← codec.readPdu order pdu (Cursor.ofBytes data)
  return (argument, cursor.position)

def decodeFrame (codec : Codec) (order : ByteOrder) (frame : Frame) (data : Bytes) :
    Except Fault (List Argument) := do
  let (arguments, _) ← codec.readFrame order frame (Cursor.ofBytes data)
  return arguments

end Codec

end DiagTrace.NonVerbose
