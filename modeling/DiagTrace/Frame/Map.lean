import Std.Data.HashMap
import DiagTrace.Fault
import DiagTrace.Frame.Basic

/-!
A collection of frames, searched by the identifiers of a packet. A frame is entered under every key that
its identifiers allow, and the first frame under a key keeps it. Only the most specific key decides
whether a frame is there already.
-/
namespace DiagTrace

/-- What a frame is found by, from the most to the least specific. -/
inductive FrameKey where
  | ofEcu (ecu : String) (id : UInt32)
  | ofContext (app ctx : String) (id : UInt32)
  | ofId (id : UInt32)
deriving DecidableEq, Hashable

namespace FrameKey

/-- The keys for a set of identifiers that may be unknown, most specific first. -/
def candidates (id : UInt32) (ecu app ctx : Option String) : List FrameKey :=
  let byEcu := match ecu with
    | some ecu => [ofEcu ecu id]
    | none => []
  let byContext := match app, ctx with
    | some app, some ctx => [ofContext app ctx id]
    | _, _ => []
  byEcu ++ byContext ++ [ofId id]

end FrameKey

namespace Frame

def keys (frame : Frame) : List FrameKey :=
  FrameKey.candidates frame.id frame.ecuId frame.appId frame.ctxId

def key (frame : Frame) : FrameKey := frame.keys.headD (.ofId frame.id)

end Frame

structure FrameMap where
  newest : List Frame
  index : Std.HashMap FrameKey Frame

namespace FrameMap

def empty : FrameMap := ⟨[], {}⟩

def toList (map : FrameMap) : List Frame := map.newest.reverse

def size (map : FrameMap) : Nat := map.newest.length

def pduCount (map : FrameMap) : Nat := map.newest.foldl (fun n frame => n + frame.pdus.length) 0

/-- Adds a frame unless one with the same most specific key is there. -/
def add (map : FrameMap) (frame : Frame) : Except Fault FrameMap :=
  if map.index.contains frame.key then
    .error (.duplicateFrame frame.ecuId frame.appId frame.ctxId frame.id)
  else
    .ok ⟨frame :: map.newest,
      frame.keys.foldl (fun index key => index.insertIfNew key frame) map.index⟩

def ofList (frames : List Frame) : Except Fault FrameMap := frames.foldlM add empty

def find? (map : FrameMap) (id : UInt32) (app ctx ecu : Option String) : Option Frame :=
  (FrameKey.candidates id ecu app ctx).findSome? fun key => map.index[key]?

end FrameMap

end DiagTrace
