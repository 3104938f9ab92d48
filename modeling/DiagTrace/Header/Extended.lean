import DiagTrace.Header.Standard
import DiagTrace.MessageType

/-!
The extended header: message type, number of arguments and the identifiers of application and context.
-/
namespace DiagTrace

structure ExtendedHeader where
  info : UInt8
  argumentCount : UInt8
  appId : UInt32
  ctxId : UInt32
deriving DecidableEq

namespace ExtendedHeader

def length : Nat := 10

def parse (buffer : Bytes) : Except Fault ExtendedHeader :=
  match buffer with
  | info :: argumentCount :: _ =>
    if buffer.hasAtLeast length then
      .ok {
        info, argumentCount
        appId := UInt32.ofNat (StandardHeader.numberAt buffer 2 4)
        ctxId := UInt32.ofNat (StandardHeader.numberAt buffer 6 4) }
    else .error (.headerTruncated .extended)
  | _ => .error (.headerTruncated .extended)

def isVerbose (header : ExtendedHeader) : Bool := header.info &&& 0x01 != 0

def typeBits (header : ExtendedHeader) : UInt8 := header.info &&& 0xFE

def encode (header : ExtendedHeader) : Bytes :=
  header.info :: header.argumentCount :: ByteOrder.big.encode 4 header.appId.toNat
    ++ ByteOrder.big.encode 4 header.ctxId.toNat

def write (header : ExtendedHeader) (buffer : Bytes) : Except Fault (Nat × Bytes) :=
  if buffer.hasAtLeast length then .ok (length, Bytes.overwrite buffer header.encode)
  else .error (.bufferTooSmall length buffer.length)

end ExtendedHeader

end DiagTrace
