import DiagTrace.Header.Standard

/-!
The storage header in front of each packet of a capture file: a marker, the time of the capture in little
endian and the identifier of the device.
-/
namespace DiagTrace

structure StorageHeader where
  seconds : UInt32
  microseconds : UInt32
  ecuId : UInt32
deriving DecidableEq

namespace StorageHeader

/-- The marker is `DLT` and a byte of value one. -/
def marker : Bytes := [0x44, 0x4C, 0x54, 0x01]

def length : Nat := 16

def parse (buffer : Bytes) : Except Fault StorageHeader :=
  if !buffer.hasAtLeast length then .error (.headerTruncated .storage)
  else if buffer.take 4 != marker then .error .storageMarkerMissing
  else
    .ok {
      seconds := UInt32.ofNat (ByteOrder.little.decode ((buffer.drop 4).take 4))
      microseconds := UInt32.ofNat (ByteOrder.little.decode ((buffer.drop 8).take 4))
      ecuId := UInt32.ofNat (StandardHeader.numberAt buffer 12 4) }

def encode (header : StorageHeader) : Bytes :=
  marker ++ ByteOrder.little.encode 4 header.seconds.toNat
    ++ ByteOrder.little.encode 4 header.microseconds.toNat
    ++ ByteOrder.big.encode 4 header.ecuId.toNat

def write (header : StorageHeader) (buffer : Bytes) : Except Fault (Nat × Bytes) :=
  if buffer.hasAtLeast length then .ok (length, Bytes.overwrite buffer header.encode)
  else .error (.bufferTooSmall length buffer.length)

end StorageHeader

end DiagTrace
