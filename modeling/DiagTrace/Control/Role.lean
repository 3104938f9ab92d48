import DiagTrace.MessageType

/-! The two directions of a control service. -/
namespace DiagTrace.Control

inductive Role where
  | request | response
deriving DecidableEq

namespace Role

/-- The role of a control message; time markers and other messages have none. -/
def ofType? : MessageType → Option Role
  | .control .request => some .request
  | .control .response => some .response
  | _ => none

def type : Role → MessageType
  | .request => .control .request
  | .response => .control .response

def name : Role → String
  | .request => "Request"
  | .response => "Response"

end Role

end DiagTrace.Control
