import DiagTrace.Argument.Basic
import DiagTrace.Calendar
import DiagTrace.Control.Payload
import DiagTrace.Feature

/-!
Lines of a trace. Every line has the same header, and the features in it say which of its fields carry a
meaning. A line is an ordinary message, a control message, or a span of bytes that hold no packet.
-/
namespace DiagTrace

structure LineHeader where
  features : Features
  ecuId : String
  appId : String
  ctxId : String
  count : Option UInt8
  deviceTime : Duration
  session : UInt32
  time : Timestamp
  type : MessageType
  number : Nat
  /-- Offset of the packet in its stream. -/
  position : Nat
deriving DecidableEq, Inhabited

namespace LineHeader

/-- A header in which no field carries a meaning. -/
def blank : LineHeader :=
  ⟨.none, "", "", "", none, .zero, 0, .epoch, .unknown, 0, 0⟩

def isBigEndian (header : LineHeader) : Bool := header.features.has .bigEndian

def isVerbose (header : LineHeader) : Bool := header.features.has .verbose

def order (header : LineHeader) : ByteOrder := ByteOrder.ofFlag header.isBigEndian

end LineHeader

inductive Line where
  /-- An ordinary message; one that is not verbose has a number in place of a format. -/
  | normal (header : LineHeader) (messageId : Option UInt32) (arguments : List Argument)
  | control (header : LineHeader) (payload : Control.Payload)
  | skipped (header : LineHeader) (bytes : Nat) (reason : Option String)
deriving Inhabited

namespace Line

def header : Line → LineHeader
  | normal header .. | control header _ | skipped header .. => header

def withHeader (line : Line) (header : LineHeader) : Line :=
  match line with
  | normal _ messageId arguments => normal header messageId arguments
  | control _ payload => control header payload
  | skipped _ bytes reason => skipped header bytes reason

def number (line : Line) : Nat := line.header.number

def withNumber (line : Line) (number : Nat) : Line := line.withHeader { line.header with number }

def arguments : Line → List Argument
  | normal _ _ arguments => arguments
  | _ => []

def isSkipped : Line → Bool
  | skipped .. => true
  | _ => false

@[simp] theorem header_withHeader (line : Line) (header : LineHeader) :
    (line.withHeader header).header = header := by
  cases line <;> rfl

end Line

end DiagTrace
