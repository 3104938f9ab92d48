import DiagTrace.Bytes.Order
import DiagTrace.Fault

/-!
The standard header in front of every packet: four bytes, then the identifier of the device, the session
and the device time where the header type says so. Its numbers are big endian in every stream.
-/
namespace DiagTrace

namespace HeaderType

def extended : UInt8 := 0x01
def bigEndian : UInt8 := 0x02
def withEcuId : UInt8 := 0x04
def withSession : UInt8 := 0x08
def withTime : UInt8 := 0x10
def versionMask : UInt8 := 0xE0

/-- The only version in use, as it stands in the header type. -/
def version1 : UInt8 := 0x20

def has (type bit : UInt8) : Bool := type &&& bit != 0

/-- Bytes of a field that is there exactly when its bit is set. -/
def bytesIf (type bit : UInt8) (length : Nat) : Nat := if has type bit then length else 0

def standardLength (type : UInt8) : Nat :=
  4 + bytesIf type withEcuId 4 + bytesIf type withSession 4 + bytesIf type withTime 4

/-- The least length of a packet of a type: its standard and extended header. -/
def minimumLength (type : UInt8) : Nat := standardLength type + bytesIf type extended 10

end HeaderType

structure StandardHeader where
  type : UInt8
  count : UInt8
  /-- Length of the whole packet from this header on. -/
  length : UInt16
  ecuId : Option UInt32
  session : Option UInt32
  /-- Time since the start of the device in tenths of a millisecond. -/
  ticks : Option UInt32
deriving DecidableEq

namespace StandardHeader

def numberAt (buffer : Bytes) (offset n : Nat) : Nat :=
  ByteOrder.big.decode ((buffer.drop offset).take n)

/-- Reads the length of the packet from the first four bytes, if version and length are possible. -/
def validate : Bytes → Except Fault Nat
  | type :: _ :: high :: low :: _ =>
    let version := type &&& HeaderType.versionMask
    let length := ByteOrder.big.decode [high, low]
    if version != HeaderType.version1 then .error (.wrongVersion (version >>> 5).toNat)
    else if length < HeaderType.minimumLength type then
      .error (.lengthBelowMinimum length (HeaderType.minimumLength type))
    else .ok length
  | _ => .error (.headerTruncated .standard)

/-- A possible length covers the standard header's fixed part. -/
theorem four_le_of_validate {buffer : Bytes} {length : Nat} (valid : validate buffer = .ok length) :
    4 ≤ length := by
  unfold validate at valid
  split at valid
  · rename_i type _ high low _
    have least : 4 ≤ HeaderType.minimumLength type := by
      simp only [HeaderType.minimumLength, HeaderType.standardLength]
      omega
    simp only at valid
    split at valid
    · cases valid
    · split at valid
      · cases valid
      · cases valid
        omega
  · cases valid

def optionalAt (buffer : Bytes) (present : Bool) (offset : Nat) : Option UInt32 :=
  if present then some (UInt32.ofNat (numberAt buffer offset 4)) else none

def parse (buffer : Bytes) : Except Fault StandardHeader :=
  match buffer with
  | type :: count :: high :: low :: _ =>
    if buffer.hasAtLeast (HeaderType.standardLength type) then
      let sessionAt := 4 + HeaderType.bytesIf type HeaderType.withEcuId 4
      let ticksAt := sessionAt + HeaderType.bytesIf type HeaderType.withSession 4
      .ok {
        type, count
        length := UInt16.ofNat (ByteOrder.big.decode [high, low])
        ecuId := optionalAt buffer (HeaderType.has type HeaderType.withEcuId) 4
        session := optionalAt buffer (HeaderType.has type HeaderType.withSession) sessionAt
        ticks := optionalAt buffer (HeaderType.has type HeaderType.withTime) ticksAt }
    else .error (.headerTruncated .standard)
  | _ => .error (.headerTruncated .standard)

def headerLength (header : StandardHeader) : Nat := HeaderType.standardLength header.type

def hasExtended (header : StandardHeader) : Bool := HeaderType.has header.type HeaderType.extended

def isBigEndian (header : StandardHeader) : Bool := HeaderType.has header.type HeaderType.bigEndian

def optionalBytes : Option UInt32 → Bytes
  | none => []
  | some value => ByteOrder.big.encode 4 value.toNat

def encode (header : StandardHeader) : Bytes :=
  header.type :: header.count :: ByteOrder.big.encode 2 header.length.toNat
    ++ optionalBytes header.ecuId ++ optionalBytes header.session ++ optionalBytes header.ticks

/-- Puts the header at the front of a buffer that has room for it; also returns the bytes put there. -/
def write (header : StandardHeader) (buffer : Bytes) : Except Fault (Nat × Bytes) :=
  if buffer.hasAtLeast header.headerLength then
    .ok (header.encode.length, Bytes.overwrite buffer header.encode)
  else .error (.bufferTooSmall header.headerLength buffer.length)

end StandardHeader

end DiagTrace
