import DiagTrace.Argument.Basic
import DiagTrace.Bytes.Cursor
import DiagTrace.Frame.Basic
import DiagTrace.Text.Latin1
import DiagTrace.Text.Utf8
import DiagTrace.Verbose.Decode

/-!
Wire types say how the value of a slot is read. A value of fixed size lies in as many bytes as the slot
declares, and only the first of them count; a slot of length 0 has a 16-bit length in front of the value.
Texts and raw bytes always have that length, whatever the slot declares.
-/
namespace DiagTrace

inductive IntegerDisplay where
  | signed | unsigned | hex | binary
deriving DecidableEq

inductive WireType where
  | bool
  | integer (display : IntegerDisplay) (width : Width)
  | float32
  | float64
  | string (coding : TextCoding)
  | raw
  | unknown
deriving DecidableEq

namespace WireType

/-- A run of bytes that has to be there as a whole. -/
def readDeclared (what : String) (length : Nat) : Read Bytes := fun cursor =>
  if cursor.rest.hasAtLeast length then .ok (cursor.rest.take length, cursor.advance length)
  else .error (.valueTruncated what length cursor.remaining)

def readPrefixed (order : ByteOrder) (what : String) : Read Bytes := fun cursor =>
  if cursor.rest.hasAtLeast 2 then
    let length := order.decode (cursor.rest.take 2)
    if cursor.rest.hasAtLeast (2 + length) then
      .ok ((cursor.rest.drop 2).take length, cursor.advance (2 + length))
    else .error (.valueTruncated what (2 + length) cursor.remaining)
  else .error (.valueTruncated what 2 cursor.remaining)

/-- The bytes of a slot: as many as it declares, or those behind their own length. -/
def readCovered (order : ByteOrder) (what : String) (length : UInt16) : Read Bytes :=
  if length == 0 then readPrefixed order what else readDeclared what length.toNat

/-- The first bytes of a slot that is long enough for them; a declared length is judged first. -/
def readFixed (order : ByteOrder) (what : String) (length : UInt16) (size : Nat) : Read Bytes := do
  if length != 0 && length.toNat < size then throw (.valueLength what length.toNat)
  let data ← readCovered order what length
  if data.length < size then throw (.valueLength what data.length)
  return data.take size

def integerName (display : IntegerDisplay) (width : Width) : String :=
  let family := match display with
    | .signed => "S_SINT"
    | .unsigned => "S_UINT"
    | .hex => "S_HEX"
    | .binary => "S_BIN"
  family ++ toString width.bits

/-- An integer in its display form; other bases than ten show the low 64 bits. -/
def integerValue (display : IntegerDisplay) (width : Width) (value : Nat) : Argument :=
  match display with
  | .signed => .signed (TwosComplement.decode width.bytes value) width none
  | .unsigned => .unsigned value width none
  | .hex => .hex (UInt64.ofNat value) width
  | .binary => .binary (UInt64.ofNat value) width

def stringValue (coding : TextCoding) (data : Bytes) : Argument :=
  match coding with
  | .eightBit => .string (Latin1.decode data) .eightBit
  | .utf8 => .string (Utf8.decode data) .utf8

def read (order : ByteOrder) (length : UInt16) : WireType → Read Argument
  | bool => do
    let data ← readFixed order "S_BOOL" length 1
    return .bool (data.head? != some 0)
  | integer display width => do
    let data ← readFixed order (integerName display width) length width.bytes
    return integerValue display width (order.decode data)
  | float32 => do
    return .float32 (UInt32.ofNat (order.decode (← readFixed order "S_FLOA32" length 4)))
  | float64 => do
    return .float64 (UInt64.ofNat (order.decode (← readFixed order "S_FLOA64" length 8)))
  | string coding => do
    return stringValue coding (Verbose.withoutTerminator (← readPrefixed order "string"))
  | raw => do
    return .raw (← readPrefixed order "raw")
  | unknown => do
    return .unknown none (← readCovered order "unknown argument" length)

end WireType

end DiagTrace
