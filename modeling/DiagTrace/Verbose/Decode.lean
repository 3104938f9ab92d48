import DiagTrace.Bytes.Cursor
import DiagTrace.Text.Latin1
import DiagTrace.Text.Utf8
import DiagTrace.Verbose.TypeInfo

/-!
Reading verbose arguments. An argument is its type information followed by the value; the order of name,
scaling and value depends on the kind:

* number: `[name length, unit length, name, unit] [scaling] value`
* text and raw bytes: `length [name length, name] data`
* record: `count [name length, name] field ...`
* array: `dimension count, dimension ... [name length, unit length, name, unit] [scaling] item ...`
-/
namespace DiagTrace.Verbose

def maxDepth : Nat := 16

/-- The bytes of a text field without the zero that may end it. -/
def withoutTerminator (data : Bytes) : Bytes :=
  if data.getLast? == some 0 then data.dropLast else data

def readText (length : Nat) : Read String := do
  return Utf8.decode (withoutTerminator (← Read.take length))

def readName (order : ByteOrder) : Read (String × Option String) := do
  let length ← Read.u16 order
  return (← readText length, none)

/-- Name and unit of a number; an empty unit field means no unit. -/
def readNameAndUnit (order : ByteOrder) : Read (String × Option String) := do
  let nameLength ← Read.u16 order
  let unitLength ← Read.u16 order
  let name ← readText nameLength
  if unitLength == 0 then
    return (name, none)
  else
    let unit ← readText unitLength
    return (name, some unit)

def optionally {α : Type} (present : Bool) (step : Read α) : Read (Option α) :=
  if present then some <$> step else pure none

def offsetWidth : Width → Width
  | .w8 | .w16 | .w32 => .w32
  | .w64 => .w64
  | .w128 => .w128

def readScaling (order : ByteOrder) (width : Width) : Read Scaling := do
  let quantization ← Read.float32 order
  let offset ← Read.signed order (offsetWidth width)
  return ⟨quantization, offset⟩

def readBool : Read Bool := do
  return (← Read.byte) != 0

def unsupportedLength {α : Type} (family : ValueFamily) (info : UInt32) : Read α :=
  throw (.unsupportedLength family (TypeInfo.length info))

/-- An integer in its display form: up to 64 bits without scaling may be shown in another base. -/
def integerValue (info : UInt32) (width : Width) (scaling : Option Scaling) (value : Nat) : Argument :=
  let plain :=
    if TypeInfo.kind info == TypeInfo.signed then
      Argument.signed (TwosComplement.decode width.bytes value) width scaling
    else .unsigned value width scaling
  if scaling.isSome || width == .w128 then plain
  else if TypeInfo.coding info == TypeInfo.hexCoding then .hex (UInt64.ofNat value) width
  else if TypeInfo.coding info == TypeInfo.binaryCoding then .binary (UInt64.ofNat value) width
  else plain

def readBoolArgument (order : ByteOrder) (info : UInt32) : Read Argument := do
  let name ← optionally (TypeInfo.isNamed info) (readName order)
  if TypeInfo.length info ≤ 1 then
    return (Argument.bool (← readBool)).withName name
  else unsupportedLength .bool info

def readInteger (order : ByteOrder) (info : UInt32) : Read Argument :=
  match TypeInfo.widthOfCode? (TypeInfo.length info) with
  | none => unsupportedLength .integer info
  | some width => do
    let name ← optionally (TypeInfo.isNamed info) (readNameAndUnit order)
    let scaling ← optionally (TypeInfo.isScaled info) (readScaling order width)
    let value ← Read.unsigned order width
    return (integerValue info width scaling value).withName name

/-- A floating-point number of 16 or 128 bits is kept as bytes. -/
def readFloatValue (order : ByteOrder) (info : UInt32) : Read Argument :=
  match TypeInfo.widthOfCode? (TypeInfo.length info) with
  | some .w32 => do return .float32 (← Read.float32 order)
  | some .w64 => do return .float64 (← Read.float64 order)
  | some .w16 => do return .unknown (some info) (← Read.take 2)
  | some .w128 => do return .unknown (some info) (← Read.take 16)
  | _ => unsupportedLength .float info

def readFloat (order : ByteOrder) (info : UInt32) : Read Argument := do
  let name ← optionally (TypeInfo.isNamed info) (readNameAndUnit order)
  return (← readFloatValue order info).withName name

def stringValue (info : UInt32) (data : Bytes) : Argument :=
  if TypeInfo.coding info == TypeInfo.utf8Coding then .string (Utf8.decode data) .utf8
  else .string (Latin1.decode data) .eightBit

def readString (order : ByteOrder) (info : UInt32) : Read Argument := do
  let length ← Read.u16 order
  let name ← optionally (TypeInfo.isNamed info) (readName order)
  let data ← Read.take length
  return (stringValue info (withoutTerminator data)).withName name

def readRaw (order : ByteOrder) (info : UInt32) : Read Argument := do
  let length ← Read.u16 order
  let name ← optionally (TypeInfo.isNamed info) (readName order)
  return (Argument.raw (← Read.take length)).withName name

/-- Trace information has no name, whatever its word says. -/
def readTraceInfo (order : ByteOrder) : Read Argument := do
  let length ← Read.u16 order
  return .traceInfo (Latin1.decode (withoutTerminator (← Read.take length)))

def elementKind (info : UInt32) : Except Fault ScalarKind :=
  let width := TypeInfo.widthOfCode? (TypeInfo.length info)
  if TypeInfo.scalar info == TypeInfo.bool then .ok .bool
  else if TypeInfo.scalar info == TypeInfo.signed then
    match width with
    | some width => .ok (.signed width)
    | none => .error (.unsupportedLength .array (TypeInfo.length info))
  else if TypeInfo.scalar info == TypeInfo.unsigned then
    match width with
    | some width => .ok (.unsigned width)
    | none => .error (.unsupportedLength .array (TypeInfo.length info))
  else if TypeInfo.scalar info == TypeInfo.float then
    match width with
    | some .w32 => .ok .float32
    | some .w64 => .ok .float64
    | _ => .error (.unsupportedElement info)
  else .error (.unsupportedElement info)

def readScalar (order : ByteOrder) : ScalarKind → Read Argument
  | .bool => do return .bool (← readBool)
  | .signed width => do return .signed (← Read.signed order width) width none
  | .unsigned width => do return .unsigned (← Read.unsigned order width) width none
  | .float32 => do return .float32 (← Read.float32 order)
  | .float64 => do return .float64 (← Read.float64 order)

/-- Items that cannot fit into the bytes left are refused before any of them is read. -/
def readItems (order : ByteOrder) (element : ScalarKind) (count : Nat) : Read (List Argument) :=
  fun cursor =>
    if cursor.rest.hasAtLeast (count * element.bytes) then
      Read.times (readScalar order element) count cursor
    else .error (.arrayTooLong count cursor.remaining)

def readDimension (order : ByteOrder) : Read UInt16 := do
  return UInt16.ofNat (← Read.u16 order)

def readArray (order : ByteOrder) (info : UInt32) : Read Argument := do
  let element ← elementKind info
  let count ← Read.u16 order
  let dimensions ← Read.times (readDimension order) count
  let name ← optionally (TypeInfo.isNamed info) (readNameAndUnit order)
  let scaling ← match element.integerWidth? with
    | some width => optionally (TypeInfo.isScaled info) (readScaling order width)
    | none => pure none
  let items ← readItems order element (itemCount dimensions)
  return (Argument.array element dimensions items scaling).withName name

def readRecord (order : ByteOrder) (info : UInt32) (field : Read Argument) : Read Argument := do
  let count ← Read.u16 order
  let name ← optionally (TypeInfo.isNamed info) (readName order)
  let fields ← Read.times field count
  return (Argument.record fields).withName name

/-- The value that type information announces, where records are read by `record`. -/
def readValue (order : ByteOrder) (record : UInt32 → Read Argument) (info : UInt32) : Read Argument :=
  let kind := TypeInfo.kind info
  if kind == TypeInfo.bool then readBoolArgument order info
  else if kind == TypeInfo.signed || kind == TypeInfo.unsigned then readInteger order info
  else if kind == TypeInfo.float then readFloat order info
  else if kind == TypeInfo.string then readString order info
  else if kind == TypeInfo.raw then readRaw order info
  else if kind == TypeInfo.traceInfo then readTraceInfo order
  else if kind == TypeInfo.record then record info
  else if TypeInfo.isArray info then readArray order info
  else throw (.unknownTypeInfo info)

/-- One argument in which records are nested at most `depth` deep. -/
def readNested (order : ByteOrder) : Nat → Read Argument
  | 0 => do readValue order (fun _ => throw .nestingTooDeep) (← Read.u32 order)
  | depth + 1 => do
    readValue order (fun info => readRecord order info (readNested order depth)) (← Read.u32 order)

def readArgument (order : ByteOrder) : Read Argument := readNested order maxDepth

/-- Reads the arguments from number `index` on of `count` and puts them behind those already read. A
failure stands for the argument that could not be read, and all bytes then count as used. -/
def decodeFrom (order : ByteOrder) (count : Nat) (cursor : Cursor) :
    Nat → List Argument → List Argument × Nat
  | 0, done => (done.reverse, cursor.position)
  | left + 1, done =>
    match readArgument order cursor with
    | .ok (argument, next) => decodeFrom order count next left (argument :: done)
    | .error fault =>
      let message := s!"arg {count - left} of {count}: " ++ fault.message
      ((.failure message :: done).reverse, cursor.position + cursor.remaining)

/-- The arguments of a verbose payload and the number of bytes that they use. -/
def decode (order : ByteOrder) (payload : Bytes) (count : Nat) : List Argument × Nat :=
  decodeFrom order count (Cursor.ofBytes payload) count []

end DiagTrace.Verbose
