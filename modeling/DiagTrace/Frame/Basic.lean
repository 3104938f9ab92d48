import DiagTrace.MessageType

/-!
Frames describe non-verbose messages. Such a message carries a number and packed values only; the frame for
its number lists what the values are, in the order of the payload.
-/
namespace DiagTrace

structure Pdu where
  type : String
  /-- Bytes of the value; 0 where the value brings its length with it. -/
  length : UInt16
  /-- A fixed text; the slot then takes no bytes of the payload. -/
  description : Option String
deriving DecidableEq, Inhabited

structure Frame where
  id : UInt32
  ecuId : Option String
  appId : Option String
  ctxId : Option String
  /-- The type of lines whose packet has no extended header. -/
  messageType : MessageType
  pdus : List Pdu
deriving DecidableEq, Inhabited

namespace Pdu

def value (type : String) (length : UInt16) : Pdu := ⟨type, length, none⟩

def text (description : String) : Pdu := ⟨"", 0, some description⟩

end Pdu

namespace Frame

def defaultType : MessageType := .log .info

/-- A frame found by its number alone, without slots. -/
def plain (id : UInt32) : Frame := ⟨id, none, none, none, defaultType, []⟩

end Frame

end DiagTrace
