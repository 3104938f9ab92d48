/-!
Features of a trace line: which header fields carry a meaning. A set of features is nine bits, and
combining, removing and testing sets is bitwise.
-/
namespace DiagTrace

inductive Feature where
  | ecuId | appId | ctxId | logTimestamp | deviceTimestamp | messageType | sessionId | verbose | bigEndian
deriving DecidableEq

namespace Feature

def all : List Feature :=
  [ecuId, appId, ctxId, logTimestamp, deviceTimestamp, messageType, sessionId, verbose, bigEndian]

def bit : Feature → UInt16
  | ecuId => 0x001
  | appId => 0x002
  | ctxId => 0x004
  | logTimestamp => 0x008
  | deviceTimestamp => 0x010
  | messageType => 0x020
  | sessionId => 0x040
  | verbose => 0x080
  | bigEndian => 0x100

def name : Feature → String
  | ecuId => "EcuId"
  | appId => "AppId"
  | ctxId => "CtxId"
  | logTimestamp => "LogTimeStamp"
  | deviceTimestamp => "DevTimeStamp"
  | messageType => "MessageType"
  | sessionId => "SessionId"
  | verbose => "Verbose"
  | bigEndian => "BigEndian"

end Feature

/-- A set of features as its bits; no bit above the ninth is ever set. -/
structure Features where
  bits : UInt16
deriving DecidableEq, Inhabited

namespace Features

def none : Features := ⟨0⟩

/-- Bits above the ninth are dropped. -/
def ofBits (bits : UInt16) : Features := ⟨bits &&& 0x1FF⟩

def single (feature : Feature) : Features := ⟨feature.bit⟩

def union (a b : Features) : Features := ⟨a.bits ||| b.bits⟩

def difference (a b : Features) : Features := ⟨a.bits &&& ~~~ b.bits⟩

def includes (a b : Features) : Bool := a.bits &&& b.bits == b.bits

def isEmpty (a : Features) : Bool := a.bits == 0

def setTo (a b : Features) (present : Bool) : Features :=
  if present then a.union b else a.difference b

def has (a : Features) (feature : Feature) : Bool := a.includes (single feature)

def add (a : Features) (feature : Feature) : Features := a.union (single feature)

def addIf (a : Features) (feature : Feature) (present : Bool) : Features :=
  a.setTo (single feature) present

def ofList (features : List Feature) : Features := features.foldl add none

def toList (a : Features) : List Feature := Feature.all.filter a.has

def text (a : Features) : String :=
  "\x7b" ++ ", ".intercalate (a.toList.map Feature.name) ++ "\x7d"

end Features

end DiagTrace
